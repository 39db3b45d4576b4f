import DeviceUsageStats.Sanity.TableSearch

/-! Which rows a query of package stats selects. The four conditions that the tables of a range get
agree with one law, except that only the first table's condition leaves out the rows of bundles that
were never used. -/

namespace DeviceUsageStats

section Selections

variable {α β : Type*} {l : List α} {f g : α → List β}

theorem length_flatMap_of_sublist (h : ∀ x ∈ l, (f x).Sublist (g x)) :
    (l.flatMap f).length ≤ (l.flatMap g).length ∧
      ((l.flatMap g).length = (l.flatMap f).length → ∀ x ∈ l, g x = f x) := by
  induction l with
  | nil => exact ⟨le_rfl, fun _ _ hx => by cases hx⟩
  | cons y l ih =>
    obtain ⟨hle, heq⟩ := ih fun x hx => h x (List.mem_cons_of_mem _ hx)
    have hy := h y (List.mem_cons_self ..)
    have hley := hy.length_le
    simp only [List.flatMap_cons, List.length_append]
    refine ⟨by omega, fun htotal x hx => ?_⟩
    rcases List.mem_cons.1 hx with rfl | hx
    · exact (hy.eq_of_length (by omega)).symm
    · exact heq (by omega) x hx

theorem flatMap_perm_iff (h : ∀ x ∈ l, (f x).Sublist (g x)) :
    (l.flatMap g).Perm (l.flatMap f) ↔ ∀ x ∈ l, g x = f x := by
  constructor
  · exact fun hperm => (length_flatMap_of_sublist h).2 hperm.length_eq
  · intro heq
    rw [List.flatMap_congr heq]

theorem map_filter_of_imp {p q : α → Bool} (hpq : ∀ x ∈ l, p x = true → q x = true) (k : α → β) :
    ((l.filter p).map k).Sublist ((l.filter q).map k) ∧
      ((l.filter q).map k = (l.filter p).map k ↔ ∀ x ∈ l, q x = true → p x = true) := by
  have hfilter : l.filter p = (l.filter q).filter p := by
    rw [List.filter_filter]
    refine List.filter_congr fun x hx => ?_
    cases hp : p x with
    | false => simp
    | true => simp [hpq x hx hp]
  refine ⟨hfilter ▸ List.filter_sublist.map k, fun heq x hx hq => ?_, fun hqp => ?_⟩
  · have hlen := congrArg List.length heq
    rw [List.length_map, List.length_map, hfilter] at hlen
    exact List.length_filter_eq_length_iff.1 hlen.symm x (List.mem_filter.2 ⟨hx, hq⟩)
  · rw [List.filter_congr fun x hx => Bool.eq_iff_iff.2 ⟨hqp x hx, hpq x hx⟩]

end Selections

namespace DatabaseState

open Bisection

variable {d : DatabaseState} {i : IntervalType} {b e : ℤ}

/-! ### The tables of a range -/

/-- A range that ends after some table starts is found, and takes in exactly the tables whose period,
up to the start of the next one, overlaps it. -/
theorem getDbIndex_exact (hd : (d.sortedTableArray i).Pairwise (· < ·)) (hbe : b < e) :
    ((d.getDbIndex b e i).isSome ↔ ∃ t ∈ d.sortedTableArray i, t < e) ∧
      ∀ startIndex endIndex, d.getDbIndex b e i = some (startIndex, endIndex) →
        0 ≤ startIndex ∧ startIndex ≤ endIndex ∧ endIndex < (d.sortedTableArray i).length ∧
          ∀ (k : ℕ) (hk : k < (d.sortedTableArray i).length),
            startIndex ≤ k ∧ k ≤ endIndex ↔ (d.sortedTableArray i)[k] < e ∧
              ∀ h : k + 1 < (d.sortedTableArray i).length, b < (d.sortedTableArray i)[k + 1] := by
  rw [getDbIndex_eq hd hbe]
  set a := d.sortedTableArray i
  have hmono : a.Pairwise (· ≤ ·) := hd.imp le_of_lt
  have hlen := rank_le_length a e
  have hstart : rank a (b + 1) ≤ rank a e := rank_mono hbe
  have hzero : rank a e = 0 ↔ ¬ ∃ t ∈ a, t < e := by
    rw [rank, List.countP_eq_zero]
    push Not
    exact forall₂_congr fun t _ => by simp
  split_ifs with hnone
  · exact ⟨iff_of_false Bool.false_ne_true (hzero.1 hnone), fun _ _ h => by cases h⟩
  refine ⟨iff_of_true rfl (not_not.1 fun h => hnone (hzero.2 h)), fun startIndex endIndex h => ?_⟩
  obtain ⟨rfl, rfl⟩ := Prod.mk.inj (Option.some.inj h)
  refine ⟨by omega, by omega, by omega, fun k hk => ?_⟩
  have hbelow : a[k] < e ↔ k < rank a e := by
    rw [← getD_lt_iff (d := 0) hmono hk, List.getD_eq_getElem _ _ hk]
  have hnext : (∀ h : k + 1 < a.length, b < a[k + 1]) ↔ rank a (b + 1) ≤ k + 1 := by
    by_cases hk' : k + 1 < a.length
    · have hiff := getD_lt_iff (x := b + 1) (d := 0) hmono hk'
      rw [List.getD_eq_getElem _ _ hk', Int.lt_add_one_iff] at hiff
      rw [forall_prop_of_true hk', ← not_le, hiff, not_lt]
    · have hbound := rank_le_length a (b + 1)
      exact iff_of_true (fun h => absurd h hk') (by omega)
  rw [hbelow, hnext]
  omega

/-- The rows of a user, and of a bundle if one is named, that were last used between two times. -/
def selectedRow (beginTime endTime packageTableTime userId : ℤ) (bundleName : String)
    (row : PackageLogRow) : Bool :=
  row.userId = userId ∧ (bundleName ≠ "" → row.bundleName = bundleName) ∧ row.lastTime ≠ -1 ∧
    beginTime ≤ row.lastTime + packageTableTime ∧ row.lastTime + packageTableTime ≤ endTime

def selectedTable (d : DatabaseState) (i : IntervalType) (beginTime endTime userId : ℤ)
    (bundleName : String) (packageTableTime : ℤ) : List BundleActivePackageStats :=
  (((d.packageTables i).rows packageTableTime).filter
    (selectedRow beginTime endTime packageTableTime userId bundleName)).map
      fun row => { loadedStats packageTableTime row with userId := userId }

/-- What a query should answer: the selected rows of all tables that start before the end. -/
def selectedStats (d : DatabaseState) (i : IntervalType) (beginTime endTime userId : ℤ)
    (bundleName : String) : List BundleActivePackageStats :=
  ((d.sortedTableArray i).filter (· < endTime)).flatMap
    (d.selectedTable i beginTime endTime userId bundleName)

/-- A row was never used, or in the period of its table. -/
def RowsInPeriod (d : DatabaseState) (i : IntervalType) : Prop :=
  ∀ t ∈ d.sortedTableArray i, ∀ row ∈ (d.packageTables i).rows t,
    row.lastTime = -1 ∨
      0 ≤ row.lastTime ∧ ∀ t' ∈ d.sortedTableArray i, t < t' → row.lastTime < t' - t

/-- No table of the range but the first holds a never-used row that the query asks for. -/
def NoNeverUsed (d : DatabaseState) (i : IntervalType) (beginTime endTime userId : ℤ)
    (bundleName : String) : Prop :=
  ∀ t ∈ d.sortedTableArray i, beginTime < t → t < endTime → (∃ t' ∈ d.sortedTableArray i, t' < t) →
    ∀ row ∈ (d.packageTables i).rows t, row.userId = userId →
      (bundleName ≠ "" → row.bundleName = bundleName) → row.lastTime ≠ -1

/-- The four conditions: a row is taken if it was last used in the range, or if it was never used and
its table is not the first. -/
theorem querySqlCondition_iff {t index startIndex endIndex userId : ℤ} {row : PackageLogRow}
    (hte : t < e) (hindex : startIndex = endIndex → index = startIndex)
    (hbegin : index ≠ startIndex → b < t)
    (hend : index ≠ endIndex → 0 ≤ row.lastTime → row.lastTime + t < e)
    (hrow : row.lastTime = -1 ∨ 0 ≤ row.lastTime) :
    querySqlCondition b e t index startIndex endIndex userId row = true ↔
      row.userId = userId ∧ (row.lastTime = -1 ∧ index ≠ startIndex ∨
        row.lastTime ≠ -1 ∧ b ≤ row.lastTime + t ∧ row.lastTime + t ≤ e) := by
  unfold querySqlCondition
  simp only
  split_ifs with hone hdiff hstart hdiff hlast
  all_goals
    simp only [decide_eq_true_eq]
    omega

/-- What a query reads from one table of its range: the selected rows are a part of it, and all of it
if the table is the first or holds no never-used row. -/
theorem queryTable_spec {t index startIndex endIndex userId : ℤ}
    (ht : (d.sortedTableArray i).getD index.toNat 0 = t) (hte : t < e)
    (hindex : startIndex = endIndex → index = startIndex) (hbegin : index ≠ startIndex → b < t)
    (hend : ∀ row ∈ (d.packageTables i).rows t,
      index ≠ endIndex → 0 ≤ row.lastTime → row.lastTime + t < e)
    (hrows : ∀ row ∈ (d.packageTables i).rows t, row.lastTime = -1 ∨ 0 ≤ row.lastTime)
    (bundleName : String) :
    (d.selectedTable i b e userId bundleName t).Sublist
        (d.queryTable i b e startIndex endIndex userId bundleName index) ∧
      (d.queryTable i b e startIndex endIndex userId bundleName index =
          d.selectedTable i b e userId bundleName t ↔
        (index ≠ startIndex → ∀ row ∈ (d.packageTables i).rows t, row.userId = userId →
          (bundleName ≠ "" → row.bundleName = bundleName) → row.lastTime ≠ -1)) := by
  have hcond : ∀ row ∈ (d.packageTables i).rows t,
      (querySqlCondition b e t index startIndex endIndex userId row ∧
        (bundleName ≠ "" → row.bundleName = bundleName)) ↔
      (row.userId = userId ∧ (row.lastTime = -1 ∧ index ≠ startIndex ∨
          row.lastTime ≠ -1 ∧ b ≤ row.lastTime + t ∧ row.lastTime + t ≤ e)) ∧
        (bundleName ≠ "" → row.bundleName = bundleName) := fun row hrow => by
    rw [querySqlCondition_iff hte hindex hbegin (hend row hrow) (hrows row hrow)]
  have hselected : ∀ row ∈ (d.packageTables i).rows t,
      selectedRow b e t userId bundleName row = true →
        decide (querySqlCondition b e t index startIndex endIndex userId row ∧
          (bundleName ≠ "" → row.bundleName = bundleName)) = true := by
    intro row hrow hsel
    rw [decide_eq_true_eq, hcond row hrow]
    simp only [selectedRow, decide_eq_true_eq] at hsel
    exact ⟨⟨hsel.1, .inr hsel.2.2⟩, hsel.2.1⟩
  obtain ⟨hsublist, heq⟩ := map_filter_of_imp hselected
    fun row => { loadedStats t row with userId := userId }
  unfold queryTable selectedTable
  simp only [ht]
  refine ⟨hsublist, heq.trans ⟨fun h hne row hrow huser hname hnever => ?_, fun h row hrow hq => ?_⟩⟩
  · have hsel := h row hrow (decide_eq_true ((hcond row hrow).2
      ⟨⟨huser, .inl ⟨hnever, hne⟩⟩, hname⟩))
    simp only [selectedRow, decide_eq_true_eq] at hsel
    exact hsel.2.2.1 hnever
  · rw [decide_eq_true_eq, hcond row hrow] at hq
    obtain ⟨⟨huser, ⟨hnever, hne⟩ | hused⟩, hname⟩ := hq
    · exact absurd hnever (h hne row hrow huser hname)
    · simp only [selectedRow, decide_eq_true_eq]
      exact ⟨huser, hname, hused⟩

/-- A query answers the selected rows of all tables before its end, in any order, exactly if no table
of its range but the first holds a never-used row that it asks for. -/
theorem queryDatabaseUsageStats_perm_iff (hd : (d.sortedTableArray i).Pairwise (· < ·))
    (rows : RowsInPeriod d i) (hbe : b < e) (userId : ℤ) (bundleName : String) :
    (d.queryDatabaseUsageStats i b e userId bundleName).Perm
        (d.selectedStats i b e userId bundleName) ↔
      NoNeverUsed d i b e userId bundleName := by
  have hmono : (d.sortedTableArray i).Pairwise (· ≤ ·) := hd.imp le_of_lt
  unfold queryDatabaseUsageStats selectedStats
  rw [getDbIndex_eq hd hbe, filter_lt_eq_map_range hmono e 0, List.flatMap_map]
  set a := d.sortedTableArray i with ha
  set m := rank a e with hm
  set r := rank a (b + 1) with hr
  have hmlen : m ≤ a.length := rank_le_length a e
  have hrm : r ≤ m := rank_mono hbe
  have hmem : ∀ j < m, a.getD j 0 ∈ a := fun j hj => getD_mem hj
  have hperiod : ∀ t ∈ a, ∀ row ∈ (d.packageTables i).rows t, row.lastTime = -1 ∨
      0 ≤ row.lastTime ∧ ∀ t' ∈ a, t < t' → row.lastTime < t' - t := rows
  by_cases hzero : m = 0
  · rw [if_pos hzero, hzero]
    refine iff_of_true .nil fun t ht _ hte => ?_
    obtain ⟨j, hj, -⟩ := exists_getD_of_lt hmono ht hte 0
    omega
  rw [if_neg hzero]
  simp only
  -- the first table of the range is the last that starts by its begin, or the first of all
  set s := r - 1 with hs
  have hstart : max 0 ((r : ℤ) - 1) = (s : ℤ) := by omega
  have hcount : ((m : ℤ) - 1 + 1 - (s : ℤ)).toNat = m - s := by omega
  have hsm : s < m := by omega
  rw [hstart, hcount]
  have hafter : ∀ j, s < j → j < m → b < a.getD j 0 := fun j hj hjm =>
    le_of_rank_le (x := b + 1) hmono (by omega) (by omega)
  have hearly : ∀ j ∈ List.range s,
      d.selectedTable i b e userId bundleName (a.getD j 0) = [] := by
    intro j hj
    rw [List.mem_range] at hj
    rw [selectedTable, List.map_eq_nil_iff, List.filter_eq_nil_iff]
    intro row hrow hsel
    have hfirst : a.getD s 0 < b + 1 := lt_of_lt_rank hmono (by omega)
    simp only [selectedRow, decide_eq_true_eq] at hsel
    obtain hnever | ⟨-, hnext⟩ := hperiod _ (hmem _ (by omega)) row hrow
    · exact hsel.2.2.1 hnever
    · have := hnext _ (hmem s hsm) (getD_strictMono hd hj (by omega))
      omega
  have hsplit : m = s + (m - s) := by omega
  conv_lhs => rw [hsplit, List.range_add, List.flatMap_append, List.flatMap_map]
  rw [← hsplit, List.flatMap_eq_nil_iff.2 hearly, List.nil_append]
  have htable : ∀ k ∈ List.range (m - s), _ := fun k hk =>
    have hk' : k < m - s := List.mem_range.1 hk
    @queryTable_spec d i b e (a.getD (s + k) 0) (s + k) s (m - 1) userId
      (by rw [show ((s : ℤ) + (k : ℤ)).toNat = s + k by omega])
      (lt_of_lt_rank hmono (by omega)) (by omega) (fun hne => hafter _ (by omega) (by omega))
      (fun row hrow hne hnonneg => by
        have hnext := ((hperiod _ (hmem _ (by omega)) row hrow).resolve_left
          (by omega)).2 _ (hmem (s + k + 1) (by omega))
          (getD_strictMono hd (by omega) (by omega))
        have hlt : a.getD (s + k + 1) 0 < e := lt_of_lt_rank hmono (by omega)
        omega)
      (fun row hrow => (hperiod _ (hmem _ (by omega)) row hrow).imp id And.left) bundleName
  rw [flatMap_perm_iff fun k hk => (htable k hk).1]
  constructor
  · intro h t ht hbt hte ⟨t', ht', hlt⟩
    obtain ⟨j, hj, rfl⟩ := exists_getD_of_lt hmono ht hte 0
    obtain ⟨j', hj', rfl⟩ := exists_getD_of_lt hmono ht' (hlt.trans hte) 0
    have hsj : s < j := by
      by_contra hle
      by_cases hzero : r = 0
      · have := getD_mono (d := 0) hmono (show j ≤ j' by omega) (by omega)
        omega
      · have : a.getD j 0 < b + 1 := lt_of_lt_rank hmono (by omega)
        omega
    have hk : j - s ∈ List.range (m - s) := List.mem_range.2 (by omega)
    have hrows := (htable _ hk).2.1 (h _ hk) (by omega)
    rwa [show s + (j - s) = j by omega] at hrows
  · intro h k hk
    rw [List.mem_range] at hk
    refine (htable k (List.mem_range.2 hk)).2.2 fun hk0 => ?_
    exact h _ (hmem _ (by omega)) (hafter _ (by omega) (by omega))
      (lt_of_lt_rank hmono (by omega))
      ⟨a.getD s 0, hmem s hsm, getD_strictMono hd (by omega) (by omega)⟩

/-- Two days; on the second a bundle ran a long-time task and was never in the foreground. -/
def taskOnSecondDay : DatabaseState :=
  { sortedTableArray := fun _ => [1709251200000, 1709337600000]
    packageTables := fun _ => (({} : Tables PackageLogRow).insert 1709251200000 []).insert
      1709337600000
      [{ userId := 100, bundleName := "com.example.music", bundleStartedCount := 0, lastTime := -1
         lastTimeContinuousTask := 60000, totalTime := 0, totalTimeContinuousTask := 60000
         uid := 20010002 }] }

theorem rowsInPeriod_taskOnSecondDay : RowsInPeriod taskOnSecondDay .daily := by
  unfold RowsInPeriod
  decide +kernel

theorem queryDatabaseUsageStats_taskOnSecondDay :
    (taskOnSecondDay.queryDatabaseUsageStats .daily 1709294400000 1709380800000 100 "").Perm
        (taskOnSecondDay.selectedStats .daily 1709294400000 1709380800000 100 "") ↔
      NoNeverUsed taskOnSecondDay .daily 1709294400000 1709380800000 100 "" :=
  queryDatabaseUsageStats_perm_iff (by decide +kernel) rowsInPeriod_taskOnSecondDay (by decide) 100 ""

theorem getDbIndex_exact_taskOnSecondDay :
    ((taskOnSecondDay.getDbIndex 1709337600000 1709380800000 .daily).isSome ↔
        ∃ t ∈ taskOnSecondDay.sortedTableArray .daily, t < 1709380800000) ∧
      ∀ startIndex endIndex, taskOnSecondDay.getDbIndex 1709337600000 1709380800000 .daily =
          some (startIndex, endIndex) →
        0 ≤ startIndex ∧ startIndex ≤ endIndex ∧
          endIndex < (taskOnSecondDay.sortedTableArray .daily).length ∧
          ∀ (k : ℕ) (hk : k < (taskOnSecondDay.sortedTableArray .daily).length),
            startIndex ≤ k ∧ k ≤ endIndex ↔
              (taskOnSecondDay.sortedTableArray .daily)[k] < 1709380800000 ∧
                ∀ h : k + 1 < (taskOnSecondDay.sortedTableArray .daily).length,
                  1709337600000 < (taskOnSecondDay.sortedTableArray .daily)[k + 1] :=
  getDbIndex_exact (by decide +kernel) (by decide)

/-- A range over both days returns the bundle that was never used. -/
theorem not_selected_taskOnSecondDay :
    (taskOnSecondDay.sortedTableArray .daily).Pairwise (· < ·) ∧
      RowsInPeriod taskOnSecondDay .daily ∧
      ¬ (taskOnSecondDay.queryDatabaseUsageStats .daily 1709294400000 1709380800000 100 "").Perm
        (taskOnSecondDay.selectedStats .daily 1709294400000 1709380800000 100 "") := by
  refine ⟨by decide +kernel, rowsInPeriod_taskOnSecondDay, fun h => ?_⟩
  have hlen := h.length_eq
  revert hlen
  decide +kernel

end DatabaseState

end DeviceUsageStats
