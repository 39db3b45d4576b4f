import DeviceUsageStats.Lib.Upsert
import DeviceUsageStats.Sanity.Keyed

/-! The rows that a flush leaves in a package table. A flush is an upsert of one row for each used
bundle, since entries under different keys are different bundles; a load reads, for each usage key,
the first row of the key. -/

namespace DeviceUsageStats

/-- What a row is found by: the user, the bundle name and the uid. -/
def PackageLogRow.ident (row : PackageLogRow) : ℤ × String × ℤ :=
  (row.userId, row.bundleName, row.uid)

/-- The usage key of a user that a row is loaded under. -/
def PackageLogRow.userKey (ident : ℤ × String × ℤ) : ℤ × String :=
  (ident.1, getBundleUsageKey ident.2.1 ident.2.2)

/-- A bundle that a flush writes. -/
def BundleActivePackageStats.Used (e : BundleActivePackageStats) : Prop :=
  ¬ (e.totalInFrontTime = 0 ∧ e.totalContiniousTaskUsedTime = 0)

instance : DecidablePred BundleActivePackageStats.Used := fun e =>
  inferInstanceAs (Decidable (¬ (e.totalInFrontTime = 0 ∧ e.totalContiniousTaskUsedTime = 0)))

namespace DatabaseState

open PackageLogRow (ident userKey)

variable {p : BundleActivePeriodStats} {rows : List PackageLogRow} {k : String}
  {e : BundleActivePackageStats}

theorem sameBundle_iff (row row' : PackageLogRow) :
    sameBundle row row' = true ↔ row.ident = row'.ident := by
  simp [sameBundle, ident]

/-- The rows that a flush of a period writes. -/
def flushedValues (p : BundleActivePeriodStats) : List PackageLogRow :=
  ((p.bundleStats.toList.map Prod.snd).filter (·.Used)).map (packageLogRow p)

theorem mem_flushedValues {row : PackageLogRow} : row ∈ flushedValues p ↔
    ∃ (k : String) (e : BundleActivePackageStats),
      p.bundleStats[k]? = some e ∧ e.Used ∧ packageLogRow p e = row := by
  simp only [flushedValues, List.mem_map, List.mem_filter, Prod.exists, exists_eq_right,
    decide_eq_true_eq, Std.TreeMap.mem_toList_iff_getElem?_eq_some]
  constructor
  · rintro ⟨e, ⟨⟨k, hk⟩, hused⟩, hrow⟩
    exact ⟨k, e, hk, hused, hrow⟩
  · rintro ⟨k, e, hk, hused, hrow⟩
    exact ⟨e, ⟨⟨k, hk⟩, hused⟩, hrow⟩

theorem foldl_flushPackageStep (p : BundleActivePeriodStats) (l : List BundleActivePackageStats)
    (rows : List PackageLogRow × List PackageLogRow) :
    l.foldl (flushPackageStep p) rows =
      ((l.filter (·.Used)).map (packageLogRow p)).foldl (Upsert.step ident) rows := by
  induction l generalizing rows with
  | nil => rfl
  | cons e l ih =>
    rw [List.foldl_cons, ih]
    by_cases h : e.Used
    · rw [List.filter_cons_of_pos (by simpa using h), List.map_cons, List.foldl_cons]
      congr 1
      unfold flushPackageStep Upsert.step
      rw [if_neg h]
      have hany : ∀ row, sameBundle row (packageLogRow p e) =
          decide (row.ident = (packageLogRow p e).ident) := fun row => by
        rw [Bool.eq_iff_iff, sameBundle_iff, decide_eq_true_eq]
      simp only [hany, decide_eq_true_eq]
    · rw [List.filter_cons_of_neg (by simpa using h)]
      congr 1
      unfold flushPackageStep
      rw [if_pos (not_not.1 h)]

/-- Entries under different keys are different bundles. -/
theorem nodup_flushedValues (hp : Keyed p.bundleStats) :
    ((flushedValues p).map fun row => userKey row.ident).Nodup := by
  have hkeys := Entries.nodup_keys_toList p.bundleStats
  have hmap : (p.bundleStats.toList.map Prod.snd).map
      (fun e => userKey (packageLogRow p e).ident) =
      (p.bundleStats.toList.map Prod.fst).map fun k => (p.userId, k) := by
    rw [List.map_map, List.map_map]
    refine List.map_congr_left fun entry hentry => ?_
    have hkey := hp entry.1 entry.2 (Std.TreeMap.mem_toList_iff_getElem?_eq_some.1 hentry)
    simp only [Function.comp_apply, userKey, ident, packageLogRow, hkey]
  have hnodup : ((p.bundleStats.toList.map Prod.snd).map
      fun e => userKey (packageLogRow p e).ident).Nodup := by
    rw [hmap]
    exact hkeys.map fun _ _ h => (Prod.mk.inj h).2
  rw [flushedValues, List.map_map]
  exact hnodup.sublist (List.filter_sublist.map _)

theorem nodup_ident_flushedValues (hp : Keyed p.bundleStats) :
    ((flushedValues p).map ident).Nodup := by
  have h : (((flushedValues p).map ident).map userKey).Nodup := by
    rw [List.map_map]
    exact nodup_flushedValues hp
  exact h.of_map _

theorem flushPackageRows_eq (hp : Keyed p.bundleStats) (rows : List PackageLogRow) :
    flushPackageRows p rows = Upsert.upsert ident rows (flushedValues p) := by
  unfold flushPackageRows
  rw [foldl_flushPackageStep, ← flushedValues,
    Upsert.foldl_step (nodup_ident_flushedValues hp)]
  rfl

/-- A last-used time that is not one millisecond before the start of its table. -/
def StampKept (beginTime lastTime : ℤ) : Prop := lastTime = -1 ∨ lastTime ≠ beginTime - 1

instance (beginTime lastTime : ℤ) : Decidable (StampKept beginTime lastTime) :=
  inferInstanceAs (Decidable (_ ∨ _))

theorem decode_encode_iff (b t : ℤ) :
    (if (if t = -1 then t else t - b) = -1 then -1 else (if t = -1 then t else t - b) + b) = t ↔
      StampKept b t := by
  unfold StampKept
  split_ifs <;> omega

/-- The written row of a user key. -/
theorem find?_flushedValues (hp : Keyed p.bundleStats) (hk : p.bundleStats[k]? = some e)
    (hused : e.Used) :
    ((flushedValues p).find? fun row => userKey row.ident = (p.userId, k)) =
      some (packageLogRow p e) := by
  have hkey : userKey (packageLogRow p e).ident = (p.userId, k) := by
    simp only [userKey, ident, packageLogRow, hp k e hk]
  rw [← hkey]
  exact Upsert.find?_of_nodup (nodup_flushedValues hp) (mem_flushedValues.2 ⟨k, e, hk, hused, rfl⟩)

/-- A key is written only for a used entry under it. -/
theorem find?_flushedValues_eq (hp : Keyed p.bundleStats) (k : String) :
    ((flushedValues p).find? fun row => userKey row.ident = (p.userId, k)) =
      ((p.bundleStats[k]?).filter (·.Used)).map (packageLogRow p) := by
  by_cases h : ∃ e, p.bundleStats[k]? = some e ∧ e.Used
  · obtain ⟨e, hk, hused⟩ := h
    rw [find?_flushedValues hp hk hused, hk, Option.filter_some, if_pos (by simpa using hused)]
    rfl
  · have hnone : (p.bundleStats[k]?).filter (·.Used) = none := by
      rw [Option.filter_eq_none_iff]
      intro e hk hused
      exact h ⟨e, hk, by simpa using hused⟩
    rw [hnone, Option.map_none, List.find?_eq_none]
    intro row hrow hkey
    obtain ⟨k', e, hk', hused, rfl⟩ := mem_flushedValues.1 hrow
    have hkey' : userKey (packageLogRow p e).ident = (p.userId, k') := by
      simp only [userKey, ident, packageLogRow, hp k' e hk']
    have heq := (Prod.mk.inj (hkey'.symm.trans (of_decide_eq_true hkey))).2
    exact h ⟨e, heq ▸ hk', hused⟩

/-- A load of the rows of a user reads the first row of each key. -/
theorem getElem?_loadedBundleStats_filter (t u : ℤ) (rows : List PackageLogRow) (k : String) :
    (loadedBundleStats t (rows.filter (·.userId = u)))[k]? =
      (rows.find? fun row => userKey row.ident = (u, k)).map (loadedStats t) := by
  rw [getElem?_loadedBundleStats, List.find?_filter]
  congr 2
  funext row
  simp [userKey, ident]

end DatabaseState

end DeviceUsageStats
