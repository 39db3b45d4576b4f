import DeviceUsageStats.Sanity.CivilDays
import DeviceUsageStats.Spec.CivilPeriods

/-! Calendar truncation over every time-zone rule: it is right where each period starts when the clock
comes to its midnight, and the midnight that each instant of it hands to `mktime` is shown under the flag of
that instant, with the offset in force at the start. -/

namespace DeviceUsageStats

/-! ### Periods of days -/

theorem firstDay_firstDay (i : IntervalType) (day : ℤ) : firstDay i (firstDay i day) = firstDay i day := by
  obtain ⟨⟨hmonth, hmonth'⟩, -⟩ := civilFromDays_valid day
  cases i with
  | daily => rfl
  | weekly =>
    simp only [firstDay]
    omega
  | monthly =>
    simp only [firstDay]
    rw [civilFromDays_daysFromCivil _ _ hmonth hmonth']
  | yearly =>
    simp only [firstDay]
    rw [civilFromDays_daysFromCivil _ _ le_rfl (by norm_num)]

theorem firstDay_le (i : IntervalType) (day : ℤ) : firstDay i day ≤ day := by
  cases i with
  | daily => exact le_rfl
  | weekly =>
    simp only [firstDay]
    omega
  | monthly =>
    obtain ⟨hmonth, hday⟩ := civilFromDays_valid day
    have hdays := daysFromCivil_civilFromDays day
    rw [daysFromCivil_eq] at hdays
    simp only [firstDay]
    rw [daysFromCivil_eq]
    omega
  | yearly => exact (civilFromDays_bounds day).1

theorem firstDay_mono (i : IntervalType) : Monotone (firstDay i) := by
  cases i with
  | daily => exact monotone_id
  | weekly =>
    intro d d' h
    simp only [firstDay]
    omega
  | monthly =>
    refine monotone_int_of_le_succ fun d => ?_
    by_cases h : 2 ≤ (civilFromDays (d + 1)).2.2
    · obtain ⟨hyear, hmonth⟩ := civilFromDays_pred h
      rw [add_sub_cancel_right] at hyear hmonth
      simp only [firstDay]
      rw [hyear, hmonth]
    · have hone : (civilFromDays (d + 1)).2.2 = 1 := by
        have hvalid := (civilFromDays_valid (d + 1)).2.1
        omega
      have hsucc : firstDay .monthly (d + 1) = d + 1 := by
        have hdays := daysFromCivil_civilFromDays (d + 1)
        rwa [hone] at hdays
      rw [hsucc]
      exact (firstDay_le .monthly d).trans (by omega)
  | yearly =>
    intro d d' h
    have hyears : Monotone fun year => daysFromCivil year 1 1 :=
      monotone_int_of_le_succ daysFromCivil_succ_year
    refine hyears (not_lt.1 fun hyear => ?_)
    have hnext : daysFromCivil ((civilFromDays d').1 + 1) 1 1 ≤
        daysFromCivil (civilFromDays d).1 1 1 := hyears hyear
    have hle := (civilFromDays_bounds d).1
    have hlt := (civilFromDays_bounds d').2
    omega

/-- The periods of 1971 start in 1971, the first week a few days before. -/
theorem le_firstDay (i : IntervalType) {day : ℤ} (h : 365 ≤ day) : 359 ≤ firstDay i day := by
  obtain ⟨⟨hmonth, hmonth'⟩, -⟩ := civilFromDays_valid day
  have hyear := civilFromDays_year h
  cases i with
  | daily => exact (by norm_num : (359 : ℤ) ≤ 365).trans h
  | weekly =>
    simp only [firstDay]
    omega
  | monthly => exact (by norm_num : (359 : ℤ) ≤ 365).trans (le_daysFromCivil hyear hmonth hmonth')
  | yearly =>
    exact (by norm_num : (359 : ℤ) ≤ 365).trans (le_daysFromCivil hyear le_rfl (by norm_num))

theorem civilDay_periodMidnight (i : IntervalType) (u : ℤ) :
    civilDay (periodMidnight i u) = firstDay i (civilDay u) := by
  unfold civilDay periodMidnight secondsOfDay
  exact Int.mul_ediv_cancel _ (by norm_num)

theorem periodMidnight_periodMidnight (i : IntervalType) (u : ℤ) :
    periodMidnight i (periodMidnight i u) = periodMidnight i u := by
  rw [periodMidnight, civilDay_periodMidnight, firstDay_firstDay, periodMidnight]

theorem le_periodMidnight (i : IntervalType) {u : ℤ} (h : From1971 u) :
    359 * secondsOfDay ≤ periodMidnight i u := by
  have hday : 365 ≤ civilDay u := by
    unfold From1971 secondsOfDay at h
    unfold civilDay secondsOfDay
    omega
  have hfirst := le_firstDay i hday
  unfold periodMidnight secondsOfDay
  omega

/-! ### Truncation of the source -/

variable {z : ZoneRule} {i : IntervalType}

def truncatedSeconds (z : ZoneRule) (i : IntervalType) (s : ℤ) : ℤ :=
  z.truncated (periodMidnight i) (builtMidnight i) s

theorem decide_flag (b : Bool) : decide (0 < if b then (1 : ℤ) else 0) = b := by
  cases b <;> rfl

theorem getIntervalTypeStartTime_ofRule {t : ℤ} (h : 0 < t) :
    getIntervalTypeStartTime (.ofRule z) t i = truncatedSeconds z i (t / 1000) * 1000 := by
  have hday := daysFromCivil_civilFromDays (civilDay (z.reading (t / 1000)))
  unfold civilDay secondsOfDay at hday
  unfold getIntervalTypeStartTime truncatedSeconds ZoneRule.truncated TimeZone.ofRule
  rw [if_neg (not_le.2 h)]
  cases i with
  | daily =>
    simp only [utc, Option.map_some, decide_flag, Int.sub_add_cancel, hday]
    simp [periodMidnight, builtMidnight, firstDay, civilDay, secondsOfDay]
  | weekly =>
    simp only [utc, Option.map_some, decide_flag, Int.sub_add_cancel, hday, zero_mul, add_zero]
    simp only [periodMidnight, builtMidnight, firstDay, civilDay, secondsOfDay, oneDayTime]
    omega
  | monthly =>
    simp only [utc, Option.map_some, decide_flag, Int.sub_add_cancel]
    simp [periodMidnight, builtMidnight, firstDay, civilDay, secondsOfDay]
  | yearly =>
    simp only [utc, Option.map_some, decide_flag, Int.sub_add_cancel]
    simp [periodMidnight, builtMidnight, firstDay, civilDay, secondsOfDay]

/-- A truncation that stays clear of the epoch, which is the error value. -/
theorem truncate_ofRule {t : ℤ} (h : 0 < t) (hs : truncatedSeconds z i (t / 1000) ≠ 0) :
    truncate (.ofRule z) false i t = truncatedSeconds z i (t / 1000) * 1000 := by
  unfold truncate BundleActiveCalendar.truncateTo
  simp only [Bool.false_eq_true, if_false, getIntervalTypeStartTime_ofRule h]
  rw [if_neg (by omega)]

theorem truncatedSeconds_pos {s : ℤ} (h : 359 * secondsOfDay ≤ periodMidnight i (z.reading s)) :
    0 < truncatedSeconds z i s := by
  have hoffset := abs_le.1 (z.presumed_le (z.isDst s) (builtMidnight i (z.reading s)))
  unfold secondsOfDay at h
  unfold truncatedSeconds ZoneRule.truncated
  omega

theorem pos_of_from1971 {s : ℤ} (h : From1971 (z.reading s)) : 0 < s := by
  have hreading := (z.le_reading s).2
  unfold From1971 secondsOfDay at h
  omega

theorem truncate_from1971 {t : ℤ} (h : From1971 (z.reading (t / 1000))) :
    truncate (.ofRule z) false i t = truncatedSeconds z i (t / 1000) * 1000 := by
  have hpos := pos_of_from1971 h
  exact truncate_ofRule (by omega) (truncatedSeconds_pos (le_periodMidnight i h)).ne'

/-! ### The calendar -/

/-- What the truncations of a type give over a rule, for every time from 1971 on: the local midnight that
starts the period. -/
structure CalendarRight (z : ZoneRule) (i : IntervalType) : Prop where
  midnight : ∀ t : ℤ, From1971 (z.reading (t / 1000)) → ∃ m,
    truncate (.ofRule z) false i t = m * 1000 ∧
      z.reading m = periodMidnight i (z.reading (t / 1000))
  le : ∀ t : ℤ, From1971 (z.reading (t / 1000)) → truncate (.ofRule z) false i t ≤ t
  again : ∀ t : ℤ, From1971 (z.reading (t / 1000)) →
    truncate (.ofRule z) false i (truncate (.ofRule z) false i t) = truncate (.ofRule z) false i t
  mono : ∀ t t' : ℤ, From1971 (z.reading (t / 1000)) → From1971 (z.reading (t' / 1000)) → t ≤ t' →
    truncate (.ofRule z) false i t ≤ truncate (.ofRule z) false i t'
  same : ∀ t t' : ℤ, From1971 (z.reading (t / 1000)) → From1971 (z.reading (t' / 1000)) →
    periodMidnight i (z.reading (t / 1000)) = periodMidnight i (z.reading (t' / 1000)) →
      truncate (.ofRule z) false i t = truncate (.ofRule z) false i t'

def instantsFrom1971 (z : ZoneRule) (s : ℤ) : Prop := From1971 (z.reading s)

theorem calendarRight_of_truncatesRight
    (h : z.TruncatesRight (periodMidnight i) (builtMidnight i) (instantsFrom1971 z)) :
    CalendarRight z i := by
  refine ⟨fun t ht => ⟨_, truncate_from1971 ht, h.midnight _ ht⟩, fun t ht => ?_, fun t ht => ?_,
    fun t t' ht ht' hle => ?_, fun t t' ht ht' hsame => ?_⟩
  · have hle := h.le _ ht
    rw [truncate_from1971 ht, truncatedSeconds]
    omega
  · have hagain : truncatedSeconds z i (truncatedSeconds z i (t / 1000)) =
        truncatedSeconds z i (t / 1000) := h.again _ ht
    have hpos := truncatedSeconds_pos (le_periodMidnight i ht)
    have hseconds : truncatedSeconds z i (t / 1000) * 1000 / 1000 =
        truncatedSeconds z i (t / 1000) := Int.mul_ediv_cancel _ (by norm_num)
    rw [truncate_from1971 ht, truncate_ofRule (by omega) (by rw [hseconds, hagain]; exact hpos.ne'),
      hseconds, hagain]
  · have hmono := h.mono _ _ ht ht' (Int.ediv_le_ediv (by norm_num) hle)
    rw [truncate_from1971 ht, truncate_from1971 ht', truncatedSeconds, truncatedSeconds]
    omega
  · rw [truncate_from1971 ht, truncate_from1971 ht', truncatedSeconds, truncatedSeconds,
      h.same _ _ ht ht' hsame]

theorem periodMidnight_le (i : IntervalType) (u : ℤ) : periodMidnight i u ≤ u := by
  have hfirst := firstDay_le i (civilDay u)
  unfold civilDay secondsOfDay at hfirst
  unfold periodMidnight civilDay secondsOfDay
  omega

theorem periodMidnight_mono (i : IntervalType) : Monotone (periodMidnight i) := fun u u' h => by
  have hday : civilDay u ≤ civilDay u' := Int.ediv_le_ediv (by decide) h
  have hfirst := firstDay_mono i hday
  unfold periodMidnight secondsOfDay
  omega

/-- From 1971 on the clock is not set back into an earlier period, and each period begins at its first
midnight, with whose offset the midnight built from each of its times is shown under the flag of that
time. -/
def PeriodsBegin (z : ZoneRule) (i : IntervalType) : Prop :=
  z.PeriodsBegin (periodMidnight i) (builtMidnight i) (instantsFrom1971 z)

def oneOffset (offset : ℤ) (h : |offset| ≤ 90000) : ZoneRule :=
  .twoOffsets (fun _ => false) offset offset h h

theorem periodsBegin_oneOffset (offset : ℤ) (h : |offset| ≤ 90000) (i : IntervalType) :
    PeriodsBegin (oneOffset offset h) i := by
  have hreading : ∀ s, (oneOffset offset h).reading s = s + offset := fun s => rfl
  refine ⟨fun s s' _ hle => periodMidnight_mono i (add_le_add_left hle offset), fun s _ =>
    ⟨periodMidnight i (s + offset) - offset, ⟨?_, ?_, fun s' _ _ => ?_, fun _ _ _ _ _ _ => rfl⟩, ?_⟩⟩
  · rw [hreading, sub_add_cancel, periodMidnight_periodMidnight]
  · have hle := periodMidnight_le i (periodMidnight i (s + offset) - offset - 1 + offset)
    rw [hreading, hreading]
    omega
  · exact ⟨builtMidnight i (s' + offset) - offset, rfl, sub_add_cancel ..⟩
  · rw [hreading, hreading, sub_add_cancel]

/-- Summer time of one year: two hours ahead from 31 March to 27 October 2024, at 01:00 of coordinated
universal time, and one hour ahead otherwise. -/
def summer2024 : ZoneRule :=
  .twoOffsets (fun s => 1711846800 ≤ s ∧ s < 1729990800) 3600 7200 (by decide) (by decide)

end DeviceUsageStats
