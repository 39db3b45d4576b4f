import DeviceUsageStats.Sanity.HistoryOps

/-! The invariant of the histories over a run. The key of an entry is its bundle's, the row that a load
would find under the key is its own, and an entry that is not marked as changed stands to that row as
`P` says. -/

namespace DeviceUsageStats
namespace HistoryState

open BundleHistoryRow (ident place)

variable {s s' : HistoryState} {u uid t : ℤ} {k b : String} {e e' : BundleActivePackageHistory}
  {c : BundleActiveGroupController} {P : BundleActivePackageHistory → Option BundleHistoryRow → Prop}

structure Inv (P : BundleActivePackageHistory → Option BundleHistoryRow → Prop) (s : HistoryState) :
    Prop extends Kept s where
  saved : ∀ u k e, s.historyOf u k = some e → e.isChanged = false → P e (s.stored u k)

/-- A load and a save establish the relation. -/
structure SaveLaw (P : BundleActivePackageHistory → Option BundleHistoryRow → Prop) : Prop where
  loaded : ∀ row, P (loadedHistory row) (some row)
  written : ∀ u e, P (unmarked e) (some (bundleHistoryRow u e))

/-- Where a lookup creates an entry, the row under its key (if any) is the bundle's own. -/
def KeyFree (s : HistoryState) (userId : ℤ) (bundleName : String) (uid : ℤ) : Prop :=
  s.historyOf userId (getBundleUsageKey bundleName uid) = none →
    ∀ row, s.stored userId (getBundleUsageKey bundleName uid) = some row →
      row.bundleName = bundleName ∧ row.uid = uid

theorem Inv.of_same (inv : Inv P s) (hnamed : s'.Named)
    (hview : ∀ u k, s'.historyOf u k = s.historyOf u k)
    (hstored : ∀ u k, s'.stored u k = s.stored u k) : Inv P s' where
  named := hnamed
  keyed u k e he := inv.keyed u k e (hview u k ▸ he)
  own u k e row he hrow := inv.own u k e row (hview u k ▸ he) (hstored u k ▸ hrow)
  saved u k e he hchanged := by
    rw [hstored]
    exact inv.saved u k e (hview u k ▸ he) hchanged

theorem Inv.withChanges (inv : Inv P s) (changes : List AppGroupCallbackInfo) :
    Inv P { s with groupChanges := changes } :=
  inv.of_same inv.named (fun _ _ => rfl) fun _ _ => rfl

/-- What is not in memory is what a load would give. -/
theorem inv_of_loaded (law : SaveLaw P) (hnamed : s.Named)
    (h : ∀ u k, s.historyOf u k = (s.stored u k).map loadedHistory) : Inv P s where
  named := hnamed
  keyed u k e he := by
    rw [h, Option.map_eq_some_iff] at he
    obtain ⟨row, hrow, rfl⟩ := he
    exact (place_of_stored hrow).2
  own u k e row he hrow := by
    rw [h, hrow] at he
    obtain rfl := Option.some.inj he
    exact ⟨rfl, rfl⟩
  saved u k e he _ := by
    rw [h, Option.map_eq_some_iff] at he
    obtain ⟨row, hrow, rfl⟩ := he
    rw [hrow]
    exact law.loaded row

theorem historyOf_new (tables : HistoryTables) (t u : ℤ) (k : String) :
    (new tables t).historyOf u k = ((new tables t).stored u k).map loadedHistory := by
  unfold historyOf new
  simp

theorem inv_new (law : SaveLaw P) (tables : HistoryTables) (t : ℤ) : Inv P (new tables t) :=
  inv_of_loaded law rfl (historyOf_new tables t)

theorem Puts.inv (h : Puts u k e s s') (inv : Inv P s)
    (hkey : getBundleUsageKey e.bundleName e.uid = k)
    (hown : ∀ row, s.stored u k = some row → row.bundleName = e.bundleName ∧ row.uid = e.uid)
    (hsaved : e.isChanged = false → P e (s.stored u k)) : Inv P s' where
  named := h.named inv.named
  keyed u' k' e' he := by
    rw [h.entry] at he
    split_ifs at he with hat
    · obtain rfl := Option.some.inj he
      rw [hat.2]
      exact hkey
    · exact inv.keyed u' k' e' he
  own u' k' e' row he hrow := by
    rw [h.entry] at he
    rw [h.stored] at hrow
    split_ifs at he with hat
    · obtain rfl := Option.some.inj he
      rw [hat.1, hat.2] at hrow
      exact hown row hrow
    · exact inv.own u' k' e' row he hrow
  saved u' k' e' he hchanged := by
    rw [h.entry] at he
    rw [h.stored]
    split_ifs at he with hat
    · obtain rfl := Option.some.inj he
      rw [hat.1, hat.2]
      exact hsaved hchanged
    · exact inv.saved u' k' e' he hchanged

theorem Inv.writeBundleUsage (law : SaveLaw P) (inv : Inv P s) (u : ℤ) :
    Inv P (s.writeBundleUsage u) := by
  by_cases hu : u ∈ s.userHistory
  · have hview := historyOf_writeBundleUsage inv.toKept hu
    have hstored := stored_writeBundleUsage inv.toKept hu
    refine ⟨⟨named_writeBundleUsage inv.named u, fun u' k e he => ?_, fun u' k e row he hrow => ?_⟩,
      fun u' k e he hchanged => ?_⟩
    · rw [hview] at he
      split_ifs at he
      · obtain ⟨e₀, he₀, rfl⟩ := Option.map_eq_some_iff.1 he
        exact inv.keyed u k e₀ he₀
      · exact inv.keyed u' k e he
    · rw [hview] at he
      rw [hstored] at hrow
      split_ifs at he hrow with heq
      · obtain ⟨e₀, he₀, rfl⟩ := Option.map_eq_some_iff.1 he
        rw [he₀] at hrow
        by_cases hchanged : e₀.isChanged
        · rw [Option.filter_some, if_pos hchanged] at hrow
          obtain rfl := Option.some.inj hrow
          exact ⟨rfl, rfl⟩
        · rw [Option.filter_some, if_neg hchanged] at hrow
          exact inv.own u k e₀ row he₀ (heq ▸ hrow)
      · exact inv.own u' k e row he hrow
    · rw [hview] at he
      rw [hstored]
      split_ifs at he ⊢ with heq
      · obtain ⟨e₀, he₀, rfl⟩ := Option.map_eq_some_iff.1 he
        rw [he₀]
        by_cases hmark : e₀.isChanged
        · rw [Option.filter_some, if_pos hmark]
          exact law.written u e₀
        · rw [Option.filter_some, if_neg hmark, heq,
            unmarked_of_not_changed (Bool.eq_false_iff.2 hmark)]
          exact inv.saved u k e₀ he₀ (Bool.eq_false_iff.2 hmark)
      · exact inv.saved u' k e he hchanged
  · rw [writeBundleUsage_of_not_mem hu]
    exact inv

theorem SetTo.inv (h : SetTo u k e s s') (law : SaveLaw P) (inv : Inv P s)
    (hkey : getBundleUsageKey e.bundleName e.uid = k)
    (hown : ∀ row, s.stored u k = some row → row.bundleName = e.bundleName ∧ row.uid = e.uid)
    (hsaved : e.isChanged = false → P e (s.stored u k)) : Inv P s' := by
  obtain ⟨s₁, flushed, changes, hputs, -, rfl⟩ := h.set
  have hinv := hputs.inv inv hkey hown hsaved
  refine Inv.withChanges ?_ changes
  split_ifs
  · exact hinv.writeBundleUsage law u
  · exact hinv

/-! ### The entry that a lookup finds -/

theorem foundHistory_key (kept : Kept s) (b : String) (u t uid : ℤ) :
    getBundleUsageKey (s.foundHistory b u t uid).bundleName (s.foundHistory b u t uid).uid =
      getBundleUsageKey b uid := by
  unfold foundHistory
  cases he : s.historyOf u (getBundleUsageKey b uid) with
  | none => rfl
  | some e => exact kept.keyed u _ e he

theorem foundHistory_own (kept : Kept s) (free : KeyFree s u b uid) (t : ℤ) {row : BundleHistoryRow}
    (hrow : s.stored u (getBundleUsageKey b uid) = some row) :
    row.bundleName = (s.foundHistory b u t uid).bundleName ∧
      row.uid = (s.foundHistory b u t uid).uid := by
  unfold foundHistory
  cases he : s.historyOf u (getBundleUsageKey b uid) with
  | none => exact free he row hrow
  | some e => exact kept.own u _ e row he hrow

/-- An entry of the same identity under the key of the bundle, with a row that suits it. -/
theorem Puts.inv_found (h : Puts u (getBundleUsageKey b uid) e s s') (inv : Inv P s)
    (free : KeyFree s u b uid)
    (hident : e.bundleName = (s.foundHistory b u t uid).bundleName ∧
      e.uid = (s.foundHistory b u t uid).uid)
    (hsaved : e.isChanged = false → P e (s.stored u (getBundleUsageKey b uid))) : Inv P s' := by
  refine h.inv inv ?_ (fun row hrow => ?_) hsaved
  · rw [hident.1, hident.2]
    exact foundHistory_key inv.toKept b u t uid
  · rw [hident.1, hident.2]
    exact foundHistory_own inv.toKept free t hrow

theorem Puts.keyFree {u' uid' : ℤ} {b' : String} (h : Puts u k e s s') (free : KeyFree s u' b' uid') :
    KeyFree s' u' b' uid' := by
  intro hnone row hrow
  rw [h.entry] at hnone
  rw [h.stored] at hrow
  split_ifs at hnone
  exact free hnone row hrow

/-- A save writes no row under a key without an entry. -/
theorem KeyFree.writeBundleUsage {u' : ℤ} (kept : Kept s) (free : KeyFree s u' b uid) (u : ℤ) :
    KeyFree (s.writeBundleUsage u) u' b uid := by
  by_cases hu : u ∈ s.userHistory
  · intro hnone row hrow
    rw [historyOf_writeBundleUsage kept hu] at hnone
    rw [stored_writeBundleUsage kept hu] at hrow
    split_ifs at hnone hrow with heq
    · rw [Option.map_eq_none_iff] at hnone
      rw [hnone] at hrow
      exact free (heq ▸ hnone) row hrow
    · exact free hnone row hrow
  · rw [writeBundleUsage_of_not_mem hu]
    exact free

/-! ### The other operations -/

/-- A setting is a run of rounds that each set one entry, under the uid of an entry that is there. -/
theorem setAppGroupOfBundle_induct {I : HistoryState → Prop} {newGroup : ℤ} {reason : ℕ}
    {isFlush installed : Bool} (hs : s.Named) (hI : I s)
    (hstep : ∀ s₁ uid s₂, s₁.Named → I s₁ →
      (∃ k e, s.historyOf u k = some e ∧ keyContains k b = true ∧ e.uid = uid) →
      SetTo u (getBundleUsageKey b uid) (setHistory (s₁.foundHistory b u t uid) newGroup reason)
        s₁ s₂ → I s₂) :
    (s.setAppGroupOfBundle b u newGroup reason t isFlush installed).2.Named ∧
      I (s.setAppGroupOfBundle b u newGroup reason t isFlush installed).2 := by
  unfold setAppGroupOfBundle
  split_ifs
  · exact ⟨hs, hI⟩
  · cases hm : s.userHistory[u]? with
    | none => exact ⟨hs, hI⟩
    | some m =>
      refine List.foldlRecOn (motive := fun r : ErrCode × HistoryState => r.2.Named ∧ I r.2)
        m.toList _ ⟨hs, hI⟩ fun r hr entry hentry => ?_
      have hview : s.historyOf u entry.1 = some entry.2 := by
        rw [historyOf_of_memory hm]
        exact Std.TreeMap.mem_toList_iff_getElem?_eq_some.1 hentry
      rcases setAppGroupStep_spec hr.1 b u newGroup reason t isFlush entry with
        heq | ⟨hname, hset⟩
      · rw [heq]
        exact hr
      · exact ⟨hset.named hr.1, hstep _ _ _ hr.1 hr.2 ⟨entry.1, entry.2, hview, hname, rfl⟩ hset⟩

theorem toHistory_putDurationData (s : HistoryState) :
    s.putDurationData.userHistory = s.userHistory ∧
      s.putDurationData.bundleHistoryTableName = s.bundleHistoryTableName ∧
      s.putDurationData.bundleHistoryTable = s.bundleHistoryTable := by
  unfold putDurationData
  simp only
  split_ifs <;> exact ⟨rfl, rfl, rfl⟩

/-- The screen times are not part of a history. -/
theorem updateBootBasedAndScreenTime_histories (s : HistoryState) (on : Bool) (t : ℤ)
    (isShutdown : Bool) :
    (s.updateBootBasedAndScreenTime on t isShutdown).userHistory = s.userHistory ∧
      (s.updateBootBasedAndScreenTime on t isShutdown).bundleHistoryTableName =
        s.bundleHistoryTableName ∧
      (s.updateBootBasedAndScreenTime on t isShutdown).bundleHistoryTable =
        s.bundleHistoryTable := by
  unfold updateBootBasedAndScreenTime BundleActiveUserHistory.updatedTimes
  split_ifs
  · exact ⟨rfl, rfl, rfl⟩
  all_goals exact toHistory_putDurationData _

/-- The screen times change as computed, and the name of the duration table may become known. -/
theorem updateBootBasedAndScreenTime_object (s : HistoryState) (on : Bool) (t : ℤ)
    (isShutdown : Bool) : ∃ name,
      (s.updateBootBasedAndScreenTime on t isShutdown).toBundleActiveUserHistory =
        { (s.updatedTimes on t isShutdown).getD s.toBundleActiveUserHistory with
          durationTableName := name } := by
  unfold updateBootBasedAndScreenTime
  cases s.updatedTimes on t isShutdown with
  | none => exact ⟨s.durationTableName, rfl⟩
  | some h =>
    unfold putDurationData
    simp only
    split_ifs
    · exact ⟨h.durationTableName, rfl⟩
    · exact ⟨true, rfl⟩

/-- The boot-based clock goes on over a change of the screen. -/
theorem getBootBasedTimeStamp_updateBootBasedAndScreenTime (s : HistoryState) (on isShutdown : Bool)
    (t t' : ℤ) : (s.updateBootBasedAndScreenTime on t isShutdown).getBootBasedTimeStamp t' =
      s.getBootBasedTimeStamp t' := by
  obtain ⟨name, hobject⟩ := updateBootBasedAndScreenTime_object s on t isShutdown
  rw [hobject]
  unfold BundleActiveUserHistory.updatedTimes BundleActiveUserHistory.getBootBasedTimeStamp
  split_ifs
  · rfl
  · rfl
  · simp only [Option.getD_some]
    omega

theorem historyOf_congr (hmemory : s'.userHistory = s.userHistory)
    (htable : s'.bundleHistoryTable = s.bundleHistoryTable) (u : ℤ) (k : String) :
    s'.historyOf u k = s.historyOf u k := by
  unfold historyOf stored
  rw [hmemory, htable]

theorem Inv.updateBootBasedAndScreenTime (inv : Inv P s) (on : Bool) (t : ℤ) (isShutdown : Bool) :
    Inv P (s.updateBootBasedAndScreenTime on t isShutdown) := by
  obtain ⟨hmemory, hname, htable⟩ := updateBootBasedAndScreenTime_histories s on t isShutdown
  refine inv.of_same ?_ (historyOf_congr hmemory htable) fun u k => ?_
  · rw [Named, hname, htable]
    exact inv.named
  · rw [stored, htable, stored]

/-- Removing a user drops what was not saved. -/
theorem historyOf_onUserRemoved (s : HistoryState) (u u' : ℤ) (k : String) :
    (s.onUserRemoved u).historyOf u' k =
      if u' = u then (s.stored u' k).map loadedHistory else s.historyOf u' k := by
  unfold historyOf onUserRemoved
  simp only [Std.TreeMap.getElem?_erase]
  by_cases h : u' = u
  · rw [h, if_pos Std.ReflCmp.compare_self, if_pos rfl]
    rfl
  · rw [if_neg fun heq => h (Std.LawfulEqCmp.eq_of_compare heq).symm, if_neg h]
    rfl

theorem Inv.onUserRemoved (law : SaveLaw P) (inv : Inv P s) (u : ℤ) : Inv P (s.onUserRemoved u) := by
  have hview := historyOf_onUserRemoved s u
  have hloaded : ∀ u' k e, (s.stored u' k).map loadedHistory = some e →
      ∃ row, s.stored u' k = some row ∧ loadedHistory row = e := fun u' k e he =>
    Option.map_eq_some_iff.1 he
  refine ⟨⟨inv.named, fun u' k e he => ?_, fun u' k e row he hrow => ?_⟩,
    fun u' k e he hchanged => ?_⟩
  · rw [hview] at he
    split_ifs at he
    · obtain ⟨row, hrow, rfl⟩ := hloaded u' k e he
      exact (place_of_stored hrow).2
    · exact inv.keyed u' k e he
  · rw [hview] at he
    split_ifs at he
    · obtain ⟨row', hrow', rfl⟩ := hloaded u' k e he
      obtain rfl := Option.some.inj (hrow.symm.trans hrow')
      exact ⟨rfl, rfl⟩
    · exact inv.own u' k e row he hrow
  · rw [hview] at he
    split_ifs at he
    · obtain ⟨row, hrow, rfl⟩ := hloaded u' k e he
      exact hrow ▸ law.loaded row
    · exact inv.saved u' k e he hchanged

/-- A filter that keeps the first match keeps it first. -/
theorem find?_filter_of_kept {Row : Type} {p q : Row → Bool} {rows : List Row}
    (h : ∀ row, rows.find? p = some row → q row = true) :
    (rows.filter q).find? p = rows.find? p := by
  induction rows with
  | nil => rfl
  | cons row rows ih =>
    by_cases hp : p row = true
    · have hq : q row = true := h row (List.find?_cons_of_pos hp)
      rw [List.filter_cons_of_pos hq, List.find?_cons_of_pos hp, List.find?_cons_of_pos hp]
    · rw [List.find?_cons_of_neg hp] at h ⊢
      by_cases hq : q row = true
      · rw [List.filter_cons_of_pos hq, List.find?_cons_of_neg hp, ih h]
      · rw [List.filter_cons_of_neg hq, ih h]

theorem prefix_getBundleUsageKey (b : String) (uid : ℤ) :
    b.toList <+: (getBundleUsageKey b uid).toList := by
  rw [getBundleUsageKey, String.toList_append]
  exact List.prefix_append _ _

/-- The cache loses what begins with the bundle's name; the key of the instance does as well. -/
theorem getElem?_deleteUsageGroupCache (m : OneUserHistory) (b : String) (uid appIndex : ℤ)
    (k : String) : (deleteUsageGroupCache m b uid appIndex)[k]? =
      (m[k]?).filter fun _ => ¬ b.toList <+: k.toList := by
  unfold deleteUsageGroupCache
  simp only
  rw [Entries.getElem?_eraseEntries]
  have hbegins : (!b.toList.isPrefixOf k.toList) = decide (¬ b.toList <+: k.toList) := by
    rw [Bool.eq_iff_iff]
    simp [← List.isPrefixOf_iff_prefix]
  rw [hbegins]
  split_ifs
  · rw [Std.TreeMap.getElem?_erase]
    split_ifs with hkey
    · have hk : b.toList <+: k.toList :=
        Std.LawfulEqCmp.eq_of_compare hkey ▸ prefix_getBundleUsageKey b uid
      cases m[k]? <;> simp [hk]
    · rfl
  · rfl

theorem named_onBundleUninstalled (hs : s.Named) (u : ℤ) (b : String) (uid appIndex : ℤ) :
    (s.onBundleUninstalled u b uid appIndex).Named := by
  unfold onBundleUninstalled
  cases s.userHistory[u]? with
  | none => exact hs
  | some m =>
    unfold Named at hs ⊢
    simp only
    split_ifs
    · rw [Option.isSome_map, hs]
    · exact hs

/-- An uninstall of a user whose histories are in memory leaves fewer entries, and the rows of those
that are left. -/
theorem onBundleUninstalled_spec (kept : Kept s) (u : ℤ) (b : String) (uid appIndex : ℤ) :
    (∀ u' k e, (s.onBundleUninstalled u b uid appIndex).historyOf u' k = some e →
        s.historyOf u' k = some e ∧
          (s.onBundleUninstalled u b uid appIndex).stored u' k = s.stored u' k) ∧
      ∀ u' k, u' ≠ u → (s.onBundleUninstalled u b uid appIndex).historyOf u' k =
        s.historyOf u' k := by
  unfold onBundleUninstalled
  cases hm : s.userHistory[u]? with
  | none => exact ⟨fun _ _ _ he => ⟨he, rfl⟩, fun _ _ _ => rfl⟩
  | some m =>
    set s₁ : HistoryState := { s with
      userHistory := s.userHistory.insert u (deleteUsageGroupCache m b uid appIndex)
      bundleHistoryTable := if s.bundleHistoryTableName then
          s.bundleHistoryTable.map (deleteUninstalledInfo · u b uid appIndex)
        else s.bundleHistoryTable } with hs₁
    -- rows that are not deleted are found as before
    have hstored : ∀ u' k, (∀ row, s.stored u' k = some row → row.userId = u →
        b ≠ "" ∧ row.bundleName ≠ b) → s₁.stored u' k = s.stored u' k := by
      intro u' k h
      have htable : s₁.bundleHistoryTable.getD [] =
          (s.bundleHistoryTable.getD []).filter fun row => ¬ (row.userId = u ∧ (b = "" ∨
            row.bundleName = b ∧ (appIndex = 0 ∨ row.uid = uid))) := by
        have hname := kept.named
        rw [hs₁]
        simp only
        cases hrows : s.bundleHistoryTable with
        | none => simp
        | some rows =>
          rw [Named, hrows] at hname
          rw [hname]
          rfl
      rw [stored, htable]
      refine find?_filter_of_kept fun row hrow => decide_eq_true fun hdeleted => ?_
      obtain ⟨hne, hname⟩ := h row hrow hdeleted.1
      exact hdeleted.2.elim hne fun h => hname h.1
    have hother : ∀ u' k, u' ≠ u → s₁.stored u' k = s.stored u' k ∧
        s₁.historyOf u' k = s.historyOf u' k := by
      intro u' k hu
      have hsame : s₁.stored u' k = s.stored u' k := hstored u' k fun row hrow hrowu =>
        absurd ((place_of_stored hrow).1.symm.trans hrowu) hu
      have hmemory : s₁.userHistory[u']? = s.userHistory[u']? := by
        rw [hs₁]
        simp only [Std.TreeMap.getElem?_insert]
        rw [if_neg fun heq => hu (Std.LawfulEqCmp.eq_of_compare heq).symm]
      refine ⟨hsame, ?_⟩
      rw [historyOf, hmemory, hsame]
      rfl
    refine ⟨fun u' k e he => ?_, fun u' k hu => (hother u' k hu).2⟩
    by_cases hu : u' = u
    · subst hu
      have hread : s₁.userHistory[u']? = some (deleteUsageGroupCache m b uid appIndex) :=
        Std.TreeMap.getElem?_insert_self
      rw [historyOf_of_memory hread] at he
      rw [getElem?_deleteUsageGroupCache] at he
      obtain ⟨hk, hbegins⟩ := Option.filter_eq_some_iff.1 he
      have hold : s.historyOf u' k = some e := by rw [historyOf_of_memory hm, hk]
      refine ⟨hold, hstored u' k fun row hrow _ => ?_⟩
      have hkey := kept.keyed u' k e hold
      constructor
      · rintro rfl
        exact of_decide_eq_true hbegins List.nil_prefix
      · intro hname
        rw [(kept.own u' k e row hold hrow).1] at hname
        refine of_decide_eq_true hbegins ?_
        rw [← hkey, hname]
        exact prefix_getBundleUsageKey b e.uid
    · exact ⟨(hother u' k hu).2 ▸ he, (hother u' k hu).1⟩

theorem Inv.onBundleUninstalled (inv : Inv P s) (u : ℤ) (b : String) (uid appIndex : ℤ) :
    Inv P (s.onBundleUninstalled u b uid appIndex) := by
  have h := (onBundleUninstalled_spec inv.toKept u b uid appIndex).1
  have hnamed := named_onBundleUninstalled inv.named u b uid appIndex
  refine ⟨⟨hnamed, fun u' k e he => inv.keyed u' k e (h u' k e he).1, fun u' k e row he hrow => ?_⟩,
    fun u' k e he hchanged => ?_⟩
  · rw [(h u' k e he).2] at hrow
    exact inv.own u' k e row (h u' k e he).1 hrow
  · rw [(h u' k e he).2]
    exact inv.saved u' k e (h u' k e he).1 hchanged

theorem Inv.foldl_writeBundleUsage (law : SaveLaw P) (inv : Inv P s) (saved : List ℤ) :
    Inv P (saved.foldl HistoryState.writeBundleUsage s) := by
  induction saved generalizing s with
  | nil => exact inv
  | cons u saved ih => exact ih (inv.writeBundleUsage law u)

/-! ### Runs -/

theorem named_apply (hs : s.Named) (op : HistoryOp) : (s.apply c op).Named := by
  cases op with
  | reportEvent event t u installed =>
    rcases reportEvent_spec (c := c) hs event t u installed with heq | ⟨reason, -, hputs⟩
    · rw [apply, heq]
      exact hs
    · exact hputs.named hs
  | checkAndUpdateGroup b u uid t => exact (checkAndUpdateGroup_spec hs b u uid t).named hs
  | checkEachBundleState u bundles t =>
    exact List.foldlRecOn (motive := Named) bundles _ hs fun s₁ h₁ oneBundle _ =>
      (checkAndUpdateGroup_spec h₁ oneBundle.1 u oneBundle.2 t).named h₁
  | setAppGroup b newGroup u t isFlush installed =>
    exact (setAppGroupOfBundle_induct (I := fun _ => True) hs trivial fun _ _ _ _ _ _ _ =>
      trivial).1
  | updateBootBasedAndScreenTime on t isShutdown =>
    obtain ⟨-, hname, htable⟩ := updateBootBasedAndScreenTime_histories s on t isShutdown
    rw [apply, Named, hname, htable]
    exact hs
  | writeBundleUsage u => exact named_writeBundleUsage hs u
  | onBundleUninstalled u b uid appIndex => exact named_onBundleUninstalled hs u b uid appIndex
  | onUserRemoved u => exact hs
  | restart saved t => rfl

theorem named_run {Start : HistoryTables → Prop} {Allowed : HistoryState → HistoryOp → Prop}
    (run : Run c Start Allowed s) : s.Named := by
  induction run with
  | start tables t => rfl
  | step op _ _ ih => exact named_apply ih op

/-! ### Keys -/

/-- Each entry that the code finds stands under its own usage key. -/
def Keyed (s : HistoryState) : Prop :=
  ∀ u k e, s.historyOf u k = some e → getBundleUsageKey e.bundleName e.uid = k

theorem key_of_stored (h : (s.stored u k).map loadedHistory = some e) :
    getBundleUsageKey e.bundleName e.uid = k := by
  obtain ⟨row, hrow, rfl⟩ := Option.map_eq_some_iff.1 h
  exact (place_of_stored hrow).2

/-- What is loaded is keyed, so only the entries in memory matter. -/
theorem keyed_of_memory
    (h : ∀ (u : ℤ) (m : OneUserHistory), s.userHistory[u]? = some m →
      ∀ (k : String) (e : BundleActivePackageHistory), m[k]? = some e →
        getBundleUsageKey e.bundleName e.uid = k) : s.Keyed := by
  intro u k e he
  unfold historyOf at he
  cases hm : s.userHistory[u]? with
  | none =>
    rw [hm] at he
    exact key_of_stored he
  | some m =>
    rw [hm] at he
    exact h u m hm k e he

theorem Keyed.memory (h : s.Keyed) {m : OneUserHistory} (hm : s.userHistory[u]? = some m)
    (hk : m[k]? = some e) : getBundleUsageKey e.bundleName e.uid = k :=
  h u k e (by rw [historyOf_of_memory hm, hk])

theorem Keyed.foundHistory (h : s.Keyed) (b : String) (u t uid : ℤ) :
    getBundleUsageKey (s.foundHistory b u t uid).bundleName (s.foundHistory b u t uid).uid =
      getBundleUsageKey b uid := by
  unfold HistoryState.foundHistory
  cases he : s.historyOf u (getBundleUsageKey b uid) with
  | none => rfl
  | some e => exact h u _ e he

theorem Keyed.puts (h : s.Keyed) (hputs : Puts u k e s s')
    (hkey : getBundleUsageKey e.bundleName e.uid = k) : s'.Keyed := by
  intro u' k' e' he
  rw [hputs.entry] at he
  split_ifs at he with hat
  · obtain rfl := Option.some.inj he
    rw [hkey, hat.2]
  · exact h u' k' e' he

theorem Keyed.writeBundleUsage (h : s.Keyed) (u : ℤ) : (s.writeBundleUsage u).Keyed := by
  by_cases hu : u ∈ s.userHistory
  · rw [Std.TreeMap.mem_iff_isSome_getElem?, Option.isSome_iff_exists] at hu
    obtain ⟨m, hm⟩ := hu
    refine keyed_of_memory fun u' m' hm' k e he => ?_
    rw [userHistory_writeBundleUsage hm, Std.TreeMap.getElem?_insert] at hm'
    split_ifs at hm'
    · obtain rfl := Option.some.inj hm'
      rw [Entries.getElem?_mapEntries] at he
      obtain ⟨e₀, he₀, rfl⟩ := Option.map_eq_some_iff.1 he
      exact h.memory (e := e₀) hm he₀
    · exact h.memory hm' he
  · rwa [writeBundleUsage_of_not_mem hu]

theorem Keyed.withChanges (h : s.Keyed) (changes : List AppGroupCallbackInfo) :
    Keyed { s with groupChanges := changes } := h

theorem Keyed.setTo (h : s.Keyed) (hset : SetTo u k e s s')
    (hkey : getBundleUsageKey e.bundleName e.uid = k) : s'.Keyed := by
  obtain ⟨s₁, flushed, changes, hputs, -, rfl⟩ := hset.set
  refine Keyed.withChanges ?_ changes
  split_ifs
  · exact (h.puts hputs hkey).writeBundleUsage u
  · exact h.puts hputs hkey

theorem Keyed.onBundleUninstalled (h : s.Keyed) (u : ℤ) (b : String) (uid appIndex : ℤ) :
    (s.onBundleUninstalled u b uid appIndex).Keyed := by
  unfold HistoryState.onBundleUninstalled
  cases hm : s.userHistory[u]? with
  | none => exact h
  | some m =>
    refine keyed_of_memory fun u' m' hm' k e he => ?_
    simp only [Std.TreeMap.getElem?_insert] at hm'
    split_ifs at hm'
    · obtain rfl := Option.some.inj hm'
      rw [getElem?_deleteUsageGroupCache] at he
      exact h.memory hm (Option.filter_eq_some_iff.1 he).1
    · exact h.memory hm' he

theorem keyed_checkAndUpdateGroup (hs : s.Named) (h : s.Keyed) (b : String) (u uid t : ℤ) :
    (c.checkAndUpdateGroup s b u uid t).Keyed := by
  refine h.puts (checkAndUpdateGroup_spec hs b u uid t) ?_
  obtain ⟨hname, huid⟩ := (touch_checkedHistory (c := c) (s := s)
    (s.foundHistory b u t uid) t).ident
  rw [hname, huid]
  exact h.foundHistory b u t uid

theorem keyed_apply (hs : s.Named) (h : s.Keyed) (op : HistoryOp) : (s.apply c op).Keyed := by
  cases op with
  | reportEvent event t u installed =>
    rcases reportEvent_spec (c := c) hs event t u installed with heq | ⟨reason, hreason, hputs⟩
    · rw [apply, heq]
      exact h
    · obtain ⟨hname, huid⟩ := (touch_reportedHistory (c := c) (s := s)
        (s.foundHistory event.bundleName u t event.uid) hreason t u).ident
      refine h.puts hputs ?_
      rw [hname, huid]
      exact h.foundHistory event.bundleName u t event.uid
  | checkAndUpdateGroup b u uid t => exact keyed_checkAndUpdateGroup hs h b u uid t
  | checkEachBundleState u bundles t =>
    refine (List.foldlRecOn (motive := fun s : HistoryState => s.Named ∧ s.Keyed) bundles _
      ⟨hs, h⟩ fun s₁ h₁ oneBundle _ => ?_).2
    exact ⟨(checkAndUpdateGroup_spec h₁.1 oneBundle.1 u oneBundle.2 t).named h₁.1,
      keyed_checkAndUpdateGroup h₁.1 h₁.2 oneBundle.1 u oneBundle.2 t⟩
  | setAppGroup b newGroup u t isFlush installed =>
    refine (setAppGroupOfBundle_induct (I := Keyed) hs h fun s₁ uid s₂ hs₁ h₁ _ hset => ?_).2
    refine h₁.setTo hset ?_
    obtain ⟨hname, huid⟩ := setHistory_ident (s₁.foundHistory b u t uid) newGroup
      groupControlReasonForced
    rw [hname, huid]
    exact h₁.foundHistory b u t uid
  | updateBootBasedAndScreenTime on t isShutdown =>
    obtain ⟨hmemory, -, -⟩ := updateBootBasedAndScreenTime_histories s on t isShutdown
    refine keyed_of_memory fun u m hm k e he => h.memory (u := u) ?_ he
    rwa [apply, hmemory] at hm
  | writeBundleUsage u => exact h.writeBundleUsage u
  | onBundleUninstalled u b uid appIndex => exact h.onBundleUninstalled u b uid appIndex
  | onUserRemoved u =>
    refine keyed_of_memory fun u' m hm k e he => h.memory (u := u') ?_ he
    simp only [apply, onUserRemoved, Std.TreeMap.getElem?_erase] at hm
    split_ifs at hm
    exact hm
  | restart saved t =>
    intro u k e he
    rw [apply, historyOf_new] at he
    exact key_of_stored he

theorem keyed_run {Start : HistoryTables → Prop} {Allowed : HistoryState → HistoryOp → Prop}
    (run : Run c Start Allowed s) : s.Keyed := by
  induction run with
  | start tables t =>
    intro u k e he
    rw [historyOf_new] at he
    exact key_of_stored he
  | step op run _ ih => exact keyed_apply (named_run run) ih op

end HistoryState
end DeviceUsageStats
