import DeviceUsageStats.Spec.DatabaseQuery

/-! The searches over the start times of the tables, and the range of tables that a query reads. On
a strictly sorted cache each search computes a rank, so the range depends on the tables below the
end of the query only. -/

namespace DeviceUsageStats

open Bisection

variable {a : List ℤ}

/-- The bounds of the loop split the tables at the time; the last probe tells on which side. -/
theorem nearIndexLoop_spec (ha : a.Pairwise (· < ·)) (t low high mid tableTime : ℤ) (h0 : 0 ≤ low)
    (hhigh : high < a.length) (hle : low ≤ high + 1)
    (hlow : ∀ i : ℕ, (i : ℤ) < low → a.getD i 0 < t)
    (habove : ∀ i : ℕ, high < i → i < a.length → t < a.getD i 0)
    (hprobe : low ≤ high ∨ tableTime < t ∨ t < tableTime ∧ mid = low ∧ low < a.length) :
    nearIndexLoop t a low high mid tableTime = if rank a t < a.length then (rank a t : ℤ) else -1 := by
  have hmono : a.Pairwise (· ≤ ·) := ha.imp le_of_lt
  have hrank : high < low → ∃ k : ℕ, (k : ℤ) = low ∧ rank a t = k := fun h => by
    obtain ⟨k, rfl⟩ := Int.eq_ofNat_of_zero_le h0
    refine ⟨k, rfl, rank_eq_of_bounds hmono (d := 0) (by omega) (fun i hi => hlow i (by omega)) ?_⟩
    exact fun i hi hlen => (habove i (by omega) hlen).le
  fun_induction nearIndexLoop t a low high mid tableTime with
  | case1 low high _ _ h mid tableTime hgt ih =>
    have hmid : low ≤ mid ∧ mid ≤ high := by omega
    refine ih (by omega) hhigh (by omega) (fun i hi => ?_) habove (.inr (.inl hgt)) fun h' => ?_
    · exact (getD_mono hmono (by omega) (by omega)).trans_lt hgt
    · refine ⟨(mid + 1).toNat, by omega, rank_eq_of_bounds hmono (d := 0) (by omega)
        (fun i hi => ?_) fun i hi hlen => (habove i (by omega) hlen).le⟩
      exact (getD_mono hmono (by omega) (by omega)).trans_lt hgt
  | case2 low high _ _ h mid tableTime hgt hlt ih =>
    have hmid : low ≤ mid ∧ mid ≤ high := by omega
    have habove' : ∀ i : ℕ, mid - 1 < i → i < a.length → t < a.getD i 0 := fun i hi hlen =>
      hlt.trans_le (getD_mono hmono (by omega) hlen)
    refine ih h0 (by omega) (by omega) hlow habove' ?_ fun h' => ?_
    · by_cases hmore : low ≤ mid - 1
      · exact .inl hmore
      · exact .inr (.inr ⟨hlt, by omega, by omega⟩)
    · refine ⟨low.toNat, by omega, rank_eq_of_bounds hmono (d := 0) (by omega)
        (fun i hi => hlow i (by omega)) fun i hi hlen => (habove' i (by omega) hlen).le⟩
  | case3 low high _ _ h mid tableTime hgt hlt =>
    have hmid : low ≤ mid ∧ mid ≤ high := by omega
    have heq : a.getD mid.toNat 0 = t := le_antisymm (not_lt.1 hlt) (not_lt.1 hgt)
    have hmidlen : mid.toNat < a.length := by omega
    have hrankmid : rank a t = mid.toNat := by
      refine rank_eq_of_bounds hmono (d := 0) hmidlen.le (fun i hi => ?_) fun i hi hlen => ?_
      · rw [← heq, List.getD_eq_getElem _ _ hmidlen,
          List.getD_eq_getElem _ _ (hi.trans hmidlen)]
        exact List.pairwise_iff_getElem.1 ha i mid.toNat _ _ hi
      · exact heq.symm.trans_le (getD_mono hmono hi hlen)
    rw [hrankmid, if_pos hmidlen]
    omega
  | case4 low high mid tableTime h hlt =>
    obtain ⟨k, hk, hrankk⟩ := hrank (by omega)
    obtain hlt' | ⟨-, rfl, hlen⟩ := hprobe.resolve_left h
    · exact absurd hlt' (not_lt.2 hlt.le)
    · rw [hrankk, if_pos (by omega), hk]
  | case5 low high mid tableTime h hlt hgt =>
    obtain ⟨k, hk, hrankk⟩ := hrank (by omega)
    rw [hrankk, if_pos (by omega), hk]
  | case6 low high mid tableTime h hlt hgt =>
    obtain ⟨k, hk, hrankk⟩ := hrank (by omega)
    obtain hlt' | ⟨hlt', -⟩ := hprobe.resolve_left h
    · rw [hrankk, if_neg fun hlen => hgt ⟨hlt', by omega⟩]
    · exact absurd hlt' hlt

theorem nearIndexOnOrAfter_eq (ha : a.Pairwise (· < ·)) (t : ℤ) :
    nearIndexOnOrAfterCurrentTime t a =
      if rank a t < a.length then (rank a t : ℤ) else -1 := by
  unfold nearIndexOnOrAfterCurrentTime
  cases a with
  | nil =>
    rw [nearIndexLoop]
    simp [rank]
  | cons z a =>
    refine nearIndexLoop_spec ha t 0 _ _ _ le_rfl (by omega) (by omega) (fun i hi => ?_)
      (fun i hi hlen => ?_) (.inl (by simp))
    · omega
    · omega

/-- The last table not after a time. -/
theorem nearIndexOnOrBefore_eq (ha : a.Pairwise (· < ·)) (t : ℤ) :
    nearIndexOnOrBeforeCurrentTime t a = (rank a (t + 1) : ℤ) - 1 := by
  unfold nearIndexOnOrBeforeCurrentTime
  have hle := rank_le_length a t
  simp only [nearIndexOnOrAfter_eq ha]
  by_cases hlen : rank a t < a.length
  · rw [if_pos hlen, if_neg (by omega), Int.toNat_natCast, rank_add_one ha]
    simp only [getD_rank_eq_iff ha hlen]
    split_ifs <;> omega
  · have hnot : t ∉ a := fun hmem => by
      obtain ⟨i, hi, heq⟩ := List.getElem_of_mem hmem
      have hlt := lt_of_lt_rank (ha.imp le_of_lt) (d := 0) (show i < rank a t by omega)
      rw [List.getD_eq_getElem _ _ hi, heq] at hlt
      exact hlt.false
    rw [if_neg hlen, if_pos (by omega), rank_add_one ha, if_neg hnot]
    omega

theorem binarySearchLoop_neg_iff (ha : a.Pairwise (· < ·)) (v low high : ℤ) (h0 : 0 ≤ low)
    (hhigh : high < a.length) (hlow : ∀ i : ℕ, (i : ℤ) < low → i < a.length → a.getD i 0 < v)
    (habove : ∀ i : ℕ, high < i → i < a.length → v < a.getD i 0) :
    binarySearchLoop a v low high < 0 ↔ v ∉ a := by
  have hmono : a.Pairwise (· ≤ ·) := ha.imp le_of_lt
  fun_induction binarySearchLoop a v low high with
  | case1 low high h mid midValue hlt ih =>
    refine ih (by omega) hhigh (fun i hi hlen => ?_) habove
    exact (getD_mono hmono (by omega) (by omega)).trans_lt hlt
  | case2 low high h mid midValue hlt hgt ih =>
    refine ih h0 (by omega) hlow fun i hi hlen => ?_
    exact (show v < a.getD mid.toNat 0 from hgt).trans_le (getD_mono hmono (by omega) hlen)
  | case3 low high h mid midValue hlt hgt =>
    have hmem : a.getD mid.toNat 0 ∈ a := by
      rw [List.getD_eq_getElem _ _ (by omega)]
      exact List.getElem_mem _
    have heq : a.getD mid.toNat 0 = v := le_antisymm (not_lt.1 hgt) (not_lt.1 hlt)
    rw [heq] at hmem
    exact ⟨fun hneg => absurd hneg (by omega), fun hnot => absurd hmem hnot⟩
  | case4 low high h =>
    refine ⟨fun _ hmem => ?_, fun _ => by omega⟩
    obtain ⟨i, hi, heq⟩ := List.getElem_of_mem hmem
    rw [← List.getD_eq_getElem a 0 hi] at heq
    by_cases hil : (i : ℤ) < low
    · exact (hlow i hil hi).ne heq
    · exact (habove i (by omega) hi).ne' heq

/-- The search finds exactly the tables of the cache. -/
theorem binarySearch_neg_iff (ha : a.Pairwise (· < ·)) (v : ℤ) : binarySearch a v < 0 ↔ v ∉ a := by
  refine binarySearchLoop_neg_iff ha v 0 _ le_rfl (by omega) (fun i hi => ?_) fun i hi hlen => ?_
  · omega
  · omega

namespace DatabaseState

variable {d d' : DatabaseState} {i : IntervalType} {b e : ℤ}

/-- The range of a query ends with the last table below its end. -/
theorem getDbIndex_eq (hd : (d.sortedTableArray i).Pairwise (· < ·)) (hbe : b < e) :
    d.getDbIndex b e i =
      if rank (d.sortedTableArray i) e = 0 then none
      else some (max 0 ((rank (d.sortedTableArray i) (b + 1) : ℤ) - 1),
        (rank (d.sortedTableArray i) e : ℤ) - 1) := by
  unfold getDbIndex
  simp only [nearIndexOnOrBefore_eq hd]
  rw [if_neg (not_le.2 hbe)]
  set a := d.sortedTableArray i
  have hstep := rank_add_one hd e
  have hle := rank_le_length a (e + 1)
  have hstart : (if (rank a (b + 1) : ℤ) - 1 < 0 then 0 else (rank a (b + 1) : ℤ) - 1) =
      max 0 ((rank a (b + 1) : ℤ) - 1) := by
    split_ifs <;> omega
  rw [hstart]
  by_cases hmem : e ∈ a
  · rw [if_pos hmem] at hstep
    have hget : a.getD ((rank a (e + 1) : ℤ) - 1).toNat 0 = e := by
      have hidx : ((rank a (e + 1) : ℤ) - 1).toNat = rank a e := by omega
      rw [hidx]
      exact (getD_rank_eq_iff hd (by omega)).2 hmem
    rw [if_neg (by omega), if_pos hget]
    split_ifs <;> first | omega | rfl | skip
    congr 2
    omega
  · rw [if_neg hmem, add_zero] at hstep
    by_cases hzero : rank a e = 0
    · rw [if_pos (by omega), if_pos hzero]
    · have hget : a.getD ((rank a (e + 1) : ℤ) - 1).toNat 0 ≠ e := fun h => by
        have hlt := lt_of_lt_rank (hd.imp le_of_lt) (d := 0)
          (show ((rank a (e + 1) : ℤ) - 1).toNat < rank a e by omega)
        exact hlt.ne h
      rw [if_neg (by omega), if_neg hget, if_neg hzero, hstep]

/-- A query reads nothing but the tables below its end. -/
theorem queryDatabaseUsageStats_congr (hd : (d.sortedTableArray i).Pairwise (· < ·))
    (hd' : (d'.sortedTableArray i).Pairwise (· < ·))
    (hbelow : (d.sortedTableArray i).filter (· < e) = (d'.sortedTableArray i).filter (· < e))
    (hrows : ∀ t ∈ d.sortedTableArray i, t < e →
      (d.packageTables i).rows t = (d'.packageTables i).rows t) (userId : ℤ) (bundleName : String) :
    d.queryDatabaseUsageStats i b e userId bundleName =
      d'.queryDatabaseUsageStats i b e userId bundleName := by
  unfold queryDatabaseUsageStats
  by_cases hbe : b < e
  · have hlen : rank (d.sortedTableArray i) e = rank (d'.sortedTableArray i) e := by
      rw [rank_eq_length_filter, hbelow, ← rank_eq_length_filter]
    have hstart : rank (d.sortedTableArray i) (b + 1) = rank (d'.sortedTableArray i) (b + 1) := by
      rw [← rank_filter_lt (show b + 1 ≤ e from hbe), hbelow, rank_filter_lt hbe]
    rw [getDbIndex_eq hd hbe, getDbIndex_eq hd' hbe, hlen, hstart]
    by_cases hzero : rank (d'.sortedTableArray i) e = 0
    · rw [if_pos hzero]
    · rw [if_neg hzero]
      simp only
      refine List.flatMap_congr fun k hk => ?_
      rw [List.mem_range] at hk
      set n := (max 0 ((rank (d'.sortedTableArray i) (b + 1) : ℤ) - 1) + k).toNat with hn
      have hlt : n < rank (d.sortedTableArray i) e := by omega
      have hget : (d.sortedTableArray i).getD n 0 = (d'.sortedTableArray i).getD n 0 := by
        rw [← getD_filter_lt (hd.imp le_of_lt) hlt, hbelow,
          getD_filter_lt (hd'.imp le_of_lt) (hlen ▸ hlt)]
      have hmem : (d.sortedTableArray i).getD n 0 ∈ d.sortedTableArray i := by
        rw [List.getD_eq_getElem _ _ (hlt.trans_le (rank_le_length _ _))]
        exact List.getElem_mem _
      unfold queryTable
      simp only [← hn]
      rw [← hget, hrows _ hmem (lt_of_lt_rank (hd.imp le_of_lt) hlt)]
  · have hnone : ∀ d : DatabaseState, d.getDbIndex b e i = none := fun d => by
      unfold getDbIndex
      rw [if_pos (not_lt.1 hbe)]
    rw [hnone, hnone]

end DatabaseState

end DeviceUsageStats
