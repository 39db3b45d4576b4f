import DeviceUsageStats.Lib.LeastScan
import DeviceUsageStats.Sanity.TableSearch

/-! Which interval type answers a query that leaves the choice to the database. The search finds the latest
table of each type that does not start after the begin of the query, the scan takes the closest of them. -/

namespace DeviceUsageStats

open Bisection

structure IsLatestStart (starts : List ℤ) (beginTime start : ℤ) : Prop where
  mem : start ∈ starts
  le : start ≤ beginTime
  latest : ∀ s ∈ starts, s ≤ beginTime → s ≤ start

theorem IsLatestStart.eq {starts : List ℤ} {beginTime start start' : ℤ}
    (h : IsLatestStart starts beginTime start) (h' : IsLatestStart starts beginTime start') :
    start = start' :=
  le_antisymm (h'.latest _ h.mem h.le) (h.latest _ h'.mem h'.le)

variable {a : List ℤ}

theorem isLatestStart_nearIndex (ha : a.Pairwise (· < ·)) {t : ℤ}
    (h : 0 ≤ nearIndexOnOrBeforeCurrentTime t a) :
    nearIndexOnOrBeforeCurrentTime t a < a.length ∧
      IsLatestStart a t (a.getD (nearIndexOnOrBeforeCurrentTime t a).toNat 0) := by
  have hmono : a.Pairwise (· ≤ ·) := ha.imp le_of_lt
  have hrank := rank_le_length a (t + 1)
  rw [nearIndexOnOrBefore_eq ha] at h ⊢
  have hlt : ((rank a (t + 1) : ℤ) - 1).toNat < rank a (t + 1) := by omega
  refine ⟨by omega, getD_mem hlt, ?_, fun s hs hst => ?_⟩
  · have := lt_of_lt_rank hmono (d := 0) hlt
    omega
  · obtain ⟨k, hk, rfl⟩ := exists_getD_of_lt hmono hs (show s < t + 1 by omega) 0
    exact getD_mono hmono (by omega) (by omega)

theorem nearIndexOnOrBefore_neg_iff (ha : a.Pairwise (· < ·)) (t : ℤ) :
    nearIndexOnOrBeforeCurrentTime t a < 0 ↔ ∀ s ∈ a, t < s := by
  rw [nearIndexOnOrBefore_eq ha]
  refine ⟨fun h s hs => ?_, fun h => ?_⟩
  · by_contra hst
    obtain ⟨k, hk, -⟩ := exists_getD_of_lt (ha.imp le_of_lt) hs (show s < t + 1 by omega) 0
    omega
  · rw [rank_eq_zero fun s hs => h s hs]
    omega

namespace DatabaseState

variable (d : DatabaseState) (beginTime : ℤ)

/-- How far the latest start of a type lies before the begin of the query. -/
def startDistance (i : IntervalType) : Option ℤ :=
  let index := nearIndexOnOrBeforeCurrentTime beginTime (d.sortedTableArray i)
  if 0 ≤ index then some (beginTime - (d.sortedTableArray i).getD index.toNat 0) else none

variable {d beginTime}

theorem startDistance_eq_some_iff {i : IntervalType} (hd : (d.sortedTableArray i).Pairwise (· < ·))
    {v : ℤ} : d.startDistance beginTime i = some v ↔
      ∃ start, IsLatestStart (d.sortedTableArray i) beginTime start ∧ v = beginTime - start := by
  unfold startDistance
  simp only
  split_ifs with hindex
  · have hlatest := (isLatestStart_nearIndex hd hindex).2
    refine ⟨fun h => ⟨_, hlatest, (Option.some.inj h).symm⟩, ?_⟩
    rintro ⟨start, hstart, rfl⟩
    rw [hstart.eq hlatest]
  · refine ⟨fun h => (nomatch h), ?_⟩
    rintro ⟨start, hstart, -⟩
    have hnone := (nearIndexOnOrBefore_neg_iff hd beginTime).1 (not_le.1 hindex) start hstart.mem
    exact absurd hstart.le (not_le.2 hnone)

theorem exists_startDistance {i : IntervalType} (hd : (d.sortedTableArray i).Pairwise (· < ·))
    {start : ℤ} (hmem : start ∈ d.sortedTableArray i) (hle : start ≤ beginTime) :
    ∃ v, d.startDistance beginTime i = some v ∧ v ≤ beginTime - start := by
  have hindex : 0 ≤ nearIndexOnOrBeforeCurrentTime beginTime (d.sortedTableArray i) := by
    by_contra h
    exact absurd hle (not_le.2 ((nearIndexOnOrBefore_neg_iff hd beginTime).1 (not_le.1 h) start hmem))
  have hlatest := (isLatestStart_nearIndex hd hindex).2
  refine ⟨_, (startDistance_eq_some_iff hd).2 ⟨_, hlatest, rfl⟩, ?_⟩
  have := hlatest.latest start hmem hle
  omega

theorem getOptimalIntervalType_eq (hd : ∀ i, (d.sortedTableArray i).Pairwise (· < ·)) :
    d.getOptimalIntervalType beginTime =
      (IntervalType.all.reverse.foldl (LeastScan.step (d.startDistance beginTime))
        (none, int64Max)).1 := by
  unfold getOptimalIntervalType
  congr 2
  funext optimal i
  simp only [LeastScan.step, startDistance]
  by_cases hindex : 0 ≤ nearIndexOnOrBeforeCurrentTime beginTime (d.sortedTableArray i)
  · obtain ⟨hlt, hlatest⟩ := isLatestStart_nearIndex (hd i) hindex
    have hle := hlatest.le
    rw [if_pos ⟨hindex, hlt⟩, if_pos hindex, abs_of_nonpos (by omega), neg_sub]
  · rw [if_neg fun h => hindex h.1, if_neg hindex]

variable (d beginTime)

/-- The latest start of the type is as close to the begin as that of any other type, and no type of a
longer period is as close. -/
def ClosestType (i : IntervalType) : Prop :=
  ∃ start, IsLatestStart (d.sortedTableArray i) beginTime start ∧
    ∀ j start', IsLatestStart (d.sortedTableArray j) beginTime start' →
      beginTime - start ≤ beginTime - start' ∧
        (beginTime - start' = beginTime - start → periodLength false j ≤ periodLength false i)

def NoneStarted : Prop := ∀ i, ∀ start ∈ d.sortedTableArray i, beginTime < start

def BestChosen (chosen : Option IntervalType) : Prop :=
  (∀ i, chosen = some i → d.ClosestType beginTime i) ∧ (chosen = none ↔ d.NoneStarted beginTime)

variable {d beginTime}

theorem pairwise_periodLength :
    IntervalType.all.reverse.Pairwise fun i j => periodLength false j ≤ periodLength false i := by
  decide

theorem closestType_of_first (hd : ∀ i, (d.sortedTableArray i).Pairwise (· < ·))
    {before after : List IntervalType} {i : IntervalType} {v : ℤ}
    (hsplit : IntervalType.all.reverse = before ++ i :: after)
    (hhere : d.startDistance beginTime i = some v)
    (hleast : ∀ j ∈ before, ∀ w ∈ d.startDistance beginTime j, v < w)
    (hlater : ∀ j ∈ after, ∀ w ∈ d.startDistance beginTime j, v ≤ w) :
    d.ClosestType beginTime i := by
  obtain ⟨start, hstart, rfl⟩ := (startDistance_eq_some_iff (hd i)).1 hhere
  refine ⟨start, hstart, fun j start' hstart' => ?_⟩
  have hj : d.startDistance beginTime j = some (beginTime - start') :=
    (startDistance_eq_some_iff (hd j)).2 ⟨start', hstart', rfl⟩
  have hmem : j ∈ before ++ i :: after := by
    rw [← hsplit]
    cases j <;> decide
  have hlength := pairwise_periodLength
  rw [hsplit, List.pairwise_append, List.pairwise_cons] at hlength
  rcases List.mem_append.1 hmem with hj' | hj'
  · have hlt := hleast j hj' _ hj
    exact ⟨hlt.le, fun heq => absurd heq hlt.ne'⟩
  rcases List.mem_cons.1 hj' with rfl | hj'
  · rw [hstart.eq hstart']
    exact ⟨le_rfl, fun _ => le_rfl⟩
  · exact ⟨hlater j hj' _ hj, fun _ => hlength.2.1.1 j hj'⟩

def monthAndDays : DatabaseState where
  sortedTableArray i := if i = .daily then [1709251200000, 1709337600000] else
    if i = .monthly then [1709251200000] else []

example : monthAndDays.getOptimalIntervalType 1709337600500 = some .daily ∧
    monthAndDays.getOptimalIntervalType 1709337599999 = some .monthly ∧
    monthAndDays.getOptimalIntervalType 1709251199999 = none := by decide +kernel

end DatabaseState
end DeviceUsageStats
