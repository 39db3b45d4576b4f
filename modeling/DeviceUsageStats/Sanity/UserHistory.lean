import DeviceUsageStats.Lib.Upsert
import DeviceUsageStats.Spec.GroupController

/-! The histories of bundles as the code finds them: in memory, or else in the first row of the usage
key. A lookup that loads or creates an entry, and a write of an entry, change that one entry. -/

namespace DeviceUsageStats

/-- What a row is found by. -/
def BundleHistoryRow.ident (row : BundleHistoryRow) : ℤ × String × ℤ :=
  (row.userId, row.bundleName, row.uid)

/-- The user and the usage key that a row is loaded under. -/
def BundleHistoryRow.place (ident : ℤ × String × ℤ) : ℤ × String :=
  (ident.1, getBundleUsageKey ident.2.1 ident.2.2)

namespace HistoryState

open BundleHistoryRow (ident place)

variable {s s' s'' : HistoryState} {u u' uid t : ℤ} {k k' b : String}
  {e e' : BundleActivePackageHistory}

/-- The row that a load finds for a usage key. -/
def stored (s : HistoryState) (userId : ℤ) (key : String) : Option BundleHistoryRow :=
  (s.bundleHistoryTable.getD []).find? fun row => place row.ident = (userId, key)

/-- The entry of a usage key: in memory, or as a load would give it. -/
def historyOf (s : HistoryState) (userId : ℤ) (key : String) : Option BundleActivePackageHistory :=
  match s.userHistory[userId]? with
  | some m => m[key]?
  | none => (s.stored userId key).map loadedHistory

/-- The database object knows the table exactly if it exists. -/
def Named (s : HistoryState) : Prop := s.bundleHistoryTableName = s.bundleHistoryTable.isSome

theorem place_of_stored {row : BundleHistoryRow} (h : s.stored u k = some row) :
    row.userId = u ∧ getBundleUsageKey row.bundleName row.uid = k := by
  have hplace := List.find?_some h
  simpa [place, ident] using hplace

theorem getElem?_getBundleHistoryData (hs : s.Named) (u : ℤ) (k : String) :
    ((s.getBundleHistoryData u).getD {})[k]? = (s.stored u k).map loadedHistory := by
  have hfind : (s.stored u k).map loadedHistory =
      (((s.bundleHistoryTable.getD []).filter (·.userId = u)).find?
        fun row => getBundleUsageKey row.bundleName row.uid = k).map loadedHistory := by
    rw [stored, List.find?_filter]
    congr 2
    funext row
    simp [place, ident]
  unfold getBundleHistoryData
  rw [hs, hfind]
  cases hrows : s.bundleHistoryTable with
  | none => simp
  | some rows =>
    simp only [Option.isSome_some, if_true, Option.getD_some]
    split_ifs with hnil
    · rw [hnil]
      simp
    · rw [Option.getD_some, Entries.getElem?_foldl_insertIfNew]
      simp

/-! ### Steps that change one entry -/

/-- Only the entry of one usage key changes. -/
structure Puts (userId : ℤ) (key : String) (e : BundleActivePackageHistory)
    (s s' : HistoryState) : Prop where
  object : s'.toBundleActiveUserHistory =
    { s.toBundleActiveUserHistory with userHistory := s'.userHistory }
  tables : s'.toHistoryTables = s.toHistoryTables
  entry : ∀ u' k', s'.historyOf u' k' =
    if u' = userId ∧ k' = key then some e else s.historyOf u' k'

theorem Puts.trans (h : Puts u k e s s') (h' : Puts u k e' s' s'') : Puts u k e' s s'' where
  object := by rw [h'.object, h.object]
  tables := h'.tables.trans h.tables
  entry u' k' := by
    rw [h'.entry, h.entry]
    split_ifs <;> rfl

theorem Puts.self (h : Puts u k e s s') : s'.historyOf u k = some e := by
  rw [h.entry, if_pos ⟨rfl, rfl⟩]

theorem Puts.stored (h : Puts u k e s s') (u' : ℤ) (k' : String) :
    s'.stored u' k' = s.stored u' k' := by
  unfold HistoryState.stored
  rw [h.tables]

theorem Puts.named (h : Puts u k e s s') (hs : s.Named) : s'.Named := by
  unfold Named at hs ⊢
  rw [h.object, h.tables]
  exact hs

theorem puts_putEntry (h : u ∈ s.userHistory) (k : String) (e : BundleActivePackageHistory) :
    Puts u k e s (s.putEntry u k e) where
  object := rfl
  tables := rfl
  entry u' k' := by
    rw [Std.TreeMap.mem_iff_isSome_getElem?, Option.isSome_iff_exists] at h
    obtain ⟨m, hm⟩ := h
    have hstored : (s.putEntry u k e).stored u' k' = s.stored u' k' := rfl
    unfold historyOf
    rw [hstored, putEntry]
    simp only [Std.TreeMap.getElem?_modify]
    by_cases hu : u' = u
    · subst hu
      simp only [hm, Std.ReflCmp.compare_self, if_true, Option.map_some, true_and,
        Std.TreeMap.getElem?_insert]
      by_cases hk : k' = k
      · simp [hk]
      · rw [if_neg hk, if_neg fun h => hk (Std.LawfulEqCmp.eq_of_compare h).symm]
    · rw [if_neg fun h => hu (Std.LawfulEqCmp.eq_of_compare h).symm, if_neg fun h => hu h.1]

theorem mem_putEntry (u' : ℤ) : u' ∈ (s.putEntry u k e).userHistory ↔ u' ∈ s.userHistory :=
  Std.TreeMap.mem_modify

/-- A load is not seen from outside. -/
theorem getUserHistory_true (hs : s.Named) (u : ℤ) :
    ∃ m s', s.getUserHistory u true = (some m, s') ∧ s'.userHistory[u]? = some m ∧
      (∀ k, m[k]? = s.historyOf u k) ∧
      s'.toBundleActiveUserHistory =
        { s.toBundleActiveUserHistory with userHistory := s'.userHistory } ∧
      s'.toHistoryTables = s.toHistoryTables ∧ s'.groupChanges = s.groupChanges ∧
      ∀ u' k', s'.historyOf u' k' = s.historyOf u' k' := by
  unfold getUserHistory
  cases hm : s.userHistory[u]? with
  | some m =>
    refine ⟨m, s, rfl, hm, fun k => ?_, rfl, rfl, rfl, fun _ _ => rfl⟩
    rw [historyOf, hm]
  | none =>
    have hload : ∀ k, ((s.getBundleHistoryData u).getD {})[k]? = s.historyOf u k := fun k => by
      rw [getElem?_getBundleHistoryData hs, historyOf, hm]
    refine ⟨_, _, rfl, Std.TreeMap.getElem?_insert_self, hload, rfl, rfl, rfl, fun u' k' => ?_⟩
    by_cases hu : u' = u
    · subst hu
      rw [historyOf]
      simp only [Std.TreeMap.getElem?_insert_self]
      exact hload k'
    · unfold historyOf
      simp only [Std.TreeMap.getElem?_insert]
      rw [if_neg fun h => hu (Std.LawfulEqCmp.eq_of_compare h).symm]
      rfl

/-- The entry that a creating lookup returns. -/
def foundHistory (s : HistoryState) (bundleName : String) (userId bootBasedTimeStamp uid : ℤ) :
    BundleActivePackageHistory :=
  (s.historyOf userId (getBundleUsageKey bundleName uid)).getD
    (s.newUsageHistory bundleName bootBasedTimeStamp uid)

theorem getUsageHistoryForBundle_true (hs : s.Named) (b : String) (u t uid : ℤ) :
    ∃ s', s.getUsageHistoryForBundle b u t true uid = (some (s.foundHistory b u t uid), s') ∧
      u ∈ s'.userHistory ∧ s'.groupChanges = s.groupChanges ∧
      Puts u (getBundleUsageKey b uid) (s.foundHistory b u t uid) s s' := by
  obtain ⟨m, s₁, hget, hm, hread, hobject, htables, hchanges, hview⟩ := getUserHistory_true hs u
  have hmem : u ∈ s₁.userHistory := by rw [Std.TreeMap.mem_iff_isSome_getElem?, hm]; rfl
  unfold getUsageHistoryForBundle getUsageHistoryInUserHistory foundHistory
  simp only [hget, hread]
  cases hk : s.historyOf u (getBundleUsageKey b uid) with
  | some e =>
    refine ⟨s₁, rfl, hmem, hchanges, hobject, htables, fun u' k' => ?_⟩
    rw [hview]
    split_ifs with h
    · rw [h.1, h.2, hk]
      rfl
    · rfl
  | none =>
    have hnew : s₁.newUsageHistory b t uid = s.newUsageHistory b t uid := by
      rw [hobject]
      rfl
    have hput := puts_putEntry hmem (getBundleUsageKey b uid) (s.newUsageHistory b t uid)
    simp only [hnew, Option.getD_none, if_true]
    refine ⟨_, rfl, (mem_putEntry u).2 hmem, hchanges, ?_, hput.tables.trans htables,
      fun u' k' => ?_⟩
    · rw [hput.object, hobject]
    · rw [hput.entry, hview]

/-- A lookup that creates nothing reads the memory. -/
theorem getUsageHistoryForBundle_false (b : String) (u t uid : ℤ) (hu : u ∈ s.userHistory) :
    (s.getUsageHistoryForBundle b u t false uid).1 = s.historyOf u (getBundleUsageKey b uid) := by
  rw [Std.TreeMap.mem_iff_isSome_getElem?, Option.isSome_iff_exists] at hu
  obtain ⟨m, hm⟩ := hu
  unfold getUsageHistoryForBundle getUserHistory getUsageHistoryInUserHistory historyOf
  simp only [hm]
  cases m[getBundleUsageKey b uid]? <;> rfl

/-- A setting changes the entry or leaves everything; a flush saves the user. -/
theorem setAppGroup_spec (hu : u ∈ s.userHistory)
    (he : s.historyOf u (getBundleUsageKey b uid) = some e) (t newGroup : ℤ) (groupReason : ℕ)
    (isFlush : Bool) :
    (e.currentGroup = newGroup ∧ e.reasonInGroup = groupReason ∧
        s.setAppGroup b u uid t newGroup groupReason isFlush = (.errRepeatSetAppGroup, s)) ∨
      ¬ (e.currentGroup = newGroup ∧ e.reasonInGroup = groupReason) ∧ ∃ s',
        Puts u (getBundleUsageKey b uid)
          { e with currentGroup := newGroup, reasonInGroup := groupReason, isChanged := true }
          s s' ∧ u ∈ s'.userHistory ∧
        s.setAppGroup b u uid t newGroup groupReason isFlush =
          (.errOk, { (if isFlush then s'.writeBundleUsage u else s') with
            groupChanges := (if isFlush then s'.writeBundleUsage u else s').groupChanges ++
              if e.currentGroup = newGroup then [] else
                [{ userId := u, oldGroup := e.currentGroup, newGroup := newGroup
                   changeReason := groupReason, bundleName := b }] }) := by
  unfold setAppGroup
  rw [getUsageHistoryForBundle_false b u t uid hu, he]
  by_cases hsame : e.currentGroup = newGroup ∧ e.reasonInGroup = groupReason
  · exact .inl ⟨hsame.1, hsame.2, if_pos hsame⟩
  · exact .inr ⟨hsame, _, puts_putEntry hu _ _, (mem_putEntry u).2 hu, if_neg hsame⟩

/-! ### Saves -/

/-- The key of each entry is its bundle's, and the row that a load would find under the key as well. -/
structure Kept (s : HistoryState) : Prop where
  named : s.Named
  keyed : ∀ u k e, s.historyOf u k = some e → getBundleUsageKey e.bundleName e.uid = k
  own : ∀ u k e row, s.historyOf u k = some e → s.stored u k = some row →
    row.bundleName = e.bundleName ∧ row.uid = e.uid

/-- What a save writes. -/
def savedValues (userId : ℤ) (m : OneUserHistory) : List BundleHistoryRow :=
  ((m.toList.map Prod.snd).filter (·.isChanged)).map (bundleHistoryRow userId)

theorem sameHistory_iff (row row' : BundleHistoryRow) :
    sameHistory row row' = true ↔ row.ident = row'.ident := by
  simp [sameHistory, ident]

theorem foldl_putHistoryStep (u : ℤ) (l : List BundleActivePackageHistory)
    (rows : List BundleHistoryRow × List BundleHistoryRow) :
    l.foldl (putHistoryStep u) rows =
      ((l.filter (·.isChanged)).map (bundleHistoryRow u)).foldl (Upsert.step ident) rows := by
  induction l generalizing rows with
  | nil => rfl
  | cons e l ih =>
    rw [List.foldl_cons, ih]
    by_cases h : e.isChanged
    · rw [List.filter_cons_of_pos h, List.map_cons, List.foldl_cons]
      congr 1
      unfold putHistoryStep Upsert.step
      rw [if_pos h]
      have hany : ∀ row, sameHistory row (bundleHistoryRow u e) =
          decide (row.ident = (bundleHistoryRow u e).ident) := fun row => by
        rw [Bool.eq_iff_iff, sameHistory_iff, decide_eq_true_eq]
      simp only [hany, decide_eq_true_eq]
    · rw [List.filter_cons_of_neg h]
      congr 1
      unfold putHistoryStep
      rw [if_neg h]

section Values

variable {m : OneUserHistory}
  (hkeyed : ∀ k e, m[k]? = some e → getBundleUsageKey e.bundleName e.uid = k)

include hkeyed

/-- Entries under different keys are written under different keys. -/
theorem nodup_savedValues (u : ℤ) : ((savedValues u m).map fun row => place row.ident).Nodup := by
  have hmap : (m.toList.map Prod.snd).map (fun e => place (bundleHistoryRow u e).ident) =
      (m.toList.map Prod.fst).map fun k => (u, k) := by
    rw [List.map_map, List.map_map]
    refine List.map_congr_left fun entry hentry => ?_
    have hkey := hkeyed entry.1 entry.2 (Std.TreeMap.mem_toList_iff_getElem?_eq_some.1 hentry)
    simp only [Function.comp_apply, place, ident, bundleHistoryRow, hkey]
  have hnodup : ((m.toList.map Prod.snd).map fun e =>
      place (bundleHistoryRow u e).ident).Nodup := by
    rw [hmap]
    exact (Entries.nodup_keys_toList m).map fun _ _ h => (Prod.mk.inj h).2
  rw [savedValues, List.map_map]
  exact hnodup.sublist (List.filter_sublist.map _)

theorem putHistoryRows_eq (u : ℤ) (rows : List BundleHistoryRow) :
    putHistoryRows u m rows = Upsert.upsert ident rows (savedValues u m) := by
  have hnodup : ((savedValues u m).map ident).Nodup := by
    have h : (((savedValues u m).map ident).map place).Nodup := by
      rw [List.map_map]
      exact nodup_savedValues hkeyed u
    exact h.of_map _
  unfold putHistoryRows
  rw [foldl_putHistoryStep, ← savedValues, Upsert.foldl_step hnodup]
  rfl

theorem mem_savedValues {u : ℤ} {row : BundleHistoryRow} : row ∈ savedValues u m ↔
    ∃ (k : String) (e : BundleActivePackageHistory),
      m[k]? = some e ∧ e.isChanged = true ∧ bundleHistoryRow u e = row ∧
        place row.ident = (u, k) := by
  simp only [savedValues, List.mem_map, List.mem_filter, Prod.exists, exists_eq_right,
    Std.TreeMap.mem_toList_iff_getElem?_eq_some]
  constructor
  · rintro ⟨e, ⟨⟨k, hk⟩, hchanged⟩, rfl⟩
    refine ⟨k, e, hk, hchanged, rfl, ?_⟩
    simp only [place, ident, bundleHistoryRow, hkeyed k e hk]
  · rintro ⟨k, e, hk, hchanged, hrow, -⟩
    exact ⟨e, ⟨⟨k, hk⟩, hchanged⟩, hrow⟩

/-- The written row of a key. -/
theorem find?_savedValues (u : ℤ) (k : String) :
    ((savedValues u m).find? fun row => place row.ident = (u, k)) =
      ((m[k]?).filter (·.isChanged)).map (bundleHistoryRow u) := by
  by_cases h : ∃ e, m[k]? = some e ∧ e.isChanged = true
  · obtain ⟨e, hk, hchanged⟩ := h
    have hplace : place (bundleHistoryRow u e).ident = (u, k) := by
      simp only [place, ident, bundleHistoryRow, hkeyed k e hk]
    rw [hk, Option.filter_some, if_pos hchanged, ← hplace]
    exact Upsert.find?_of_nodup (nodup_savedValues hkeyed u)
      ((mem_savedValues hkeyed).2 ⟨k, e, hk, hchanged, rfl, hplace⟩)
  · have hnone : (m[k]?).filter (·.isChanged) = none :=
      Option.filter_eq_none_iff.2 fun e hk hchanged => h ⟨e, hk, hchanged⟩
    rw [hnone, Option.map_none, List.find?_eq_none]
    intro row hrow hplace
    obtain ⟨k', e, hk, hchanged, -, hplace'⟩ := (mem_savedValues hkeyed).1 hrow
    have heq := (Prod.mk.inj (hplace'.symm.trans (of_decide_eq_true hplace))).2
    exact h ⟨e, heq ▸ hk, hchanged⟩

end Values

end HistoryState
end DeviceUsageStats
