import DeviceUsageStats.Spec.UsePeriod

/-! Civil dates count days without gaps: a day is a year of an era and a day of that year, both counted from
the start of March. So the days of coordinated universal time start where the code expects them. -/

namespace DeviceUsageStats

/-- The day of the year, from the start of March, that belongs to a day of an era. -/
theorem dayOfYear_lt {doe yoe c d e f g : ℤ} (h : 0 ≤ doe) (h' : doe < 146097)
    (hc : 0 ≤ doe - 1460 * c ∧ doe - 1460 * c < 1460)
    (hd : 0 ≤ doe - 36524 * d ∧ doe - 36524 * d < 36524)
    (he : 0 ≤ doe - 146096 * e ∧ doe - 146096 * e < 146096)
    (hyoe : 0 ≤ doe - c + d - e - 365 * yoe ∧ doe - c + d - e - 365 * yoe < 365)
    (hf : 0 ≤ yoe - 4 * f ∧ yoe - 4 * f < 4) (hg : 0 ≤ yoe - 100 * g ∧ yoe - 100 * g < 100) :
    0 ≤ doe - (365 * yoe + f - g) ∧ doe - (365 * yoe + f - g) < 366 := by
  -- one case for each century of the day and of the year
  have hgs : g = 0 ∨ g = 1 ∨ g = 2 ∨ g = 3 := by omega
  have hds : d = 0 ∨ d = 1 ∨ d = 2 ∨ d = 3 ∨ d = 4 := by omega
  rcases hgs with rfl | rfl | rfl | rfl <;> rcases hds with rfl | rfl | rfl | rfl | rfl <;> omega

/-- The date of a day of the year, from the start of March, of a year of an era. -/
def civilOf (era yoe doy : ℤ) : ℤ × ℤ × ℤ :=
  let mp := (5 * doy + 2) / 153
  let month := if mp < 10 then mp + 3 else mp - 9
  (yoe + era * 400 + (if month ≤ 2 then 1 else 0), month, doy - (153 * mp + 2) / 5 + 1)

/-- The days of an era, counted by year and day of the year. -/
def eraDay (era yoe doy : ℤ) : ℤ := era * 146097 + (365 * yoe + yoe / 4 - yoe / 100 + doy) - 719468

theorem civilFromDays_spec (day : ℤ) : ∃ era yoe doy, (0 ≤ yoe ∧ yoe < 400) ∧ (0 ≤ doy ∧ doy < 366) ∧
    day = eraDay era yoe doy ∧ civilFromDays day = civilOf era yoe doy := by
  set era := (day + 719468) / 146097 with hera
  set doe := day + 719468 - era * 146097 with hdoe
  set yoe := (doe - doe / 1460 + doe / 36524 - doe / 146096) / 365 with hyoe
  set doy := doe - (365 * yoe + yoe / 4 - yoe / 100) with hdoy
  have hdoe' : 0 ≤ doe ∧ doe < 146097 := by omega
  have hyoe' : 0 ≤ yoe ∧ yoe < 400 := by omega
  have hdoy' : 0 ≤ doy ∧ doy < 366 :=
    dayOfYear_lt (c := doe / 1460) (d := doe / 36524) (e := doe / 146096) hdoe'.1 hdoe'.2 (by omega)
      (by omega) (by omega) (by omega) (by omega) (by omega)
  refine ⟨era, yoe, doy, hyoe', hdoy', ?_, rfl⟩
  unfold eraDay
  clear_value yoe
  omega

/-- A day before the leap day is read back. -/
theorem civilFromDays_eraDay {era yoe doy : ℤ} (h : 0 ≤ yoe) (h' : yoe < 400) (hd : 0 ≤ doy)
    (hd' : doy ≤ 364) : civilFromDays (eraDay era yoe doy) = civilOf era yoe doy := by
  set doe := 365 * yoe + yoe / 4 - yoe / 100 + doy with hdoe
  have hdoe' : 0 ≤ doe ∧ doe < 146096 := by omega
  have hera : (eraDay era yoe doy + 719468) / 146097 = era := by
    unfold eraDay
    rw [← hdoe]
    clear_value doe
    omega
  have hdoe'' : eraDay era yoe doy + 719468 - era * 146097 = doe := by
    unfold eraDay
    rw [← hdoe]
    ring
  have hcentury : doe / 36524 = yoe / 100 := by omega
  have hlong : doe / 146096 = 0 := by omega
  have hyoe : (doe - doe / 1460 + doe / 36524 - doe / 146096) / 365 = yoe := by
    rw [hcentury, hlong]
    omega
  have hdoy : doe - (365 * yoe + yoe / 4 - yoe / 100) = doy := by omega
  unfold civilFromDays
  simp only [hera, hdoe'', hyoe, hdoy]
  rfl

theorem civilOf_valid {era yoe doy : ℤ} (h : 0 ≤ doy) (h' : doy < 366) :
    (1 ≤ (civilOf era yoe doy).2.1 ∧ (civilOf era yoe doy).2.1 ≤ 12) ∧
      1 ≤ (civilOf era yoe doy).2.2 ∧ (civilOf era yoe doy).2.2 ≤ 31 := by
  unfold civilOf
  simp only
  refine ⟨?_, by omega, by omega⟩
  split_ifs <;> omega

/-- The date counts back to its day. -/
theorem daysFromCivil_civilOf {era yoe doy : ℤ} (h : 0 ≤ yoe) (h' : yoe < 400) (hd : 0 ≤ doy)
    (hd' : doy < 366) :
    daysFromCivil (civilOf era yoe doy).1 (civilOf era yoe doy).2.1 (civilOf era yoe doy).2.2 =
      eraDay era yoe doy := by
  unfold daysFromCivil civilOf eraDay
  simp only
  set mp := (5 * doy + 2) / 153 with hmp
  have hmp' : 0 ≤ mp ∧ mp < 12 := by omega
  set month := if mp < 10 then mp + 3 else mp - 9 with hmonth
  -- January and February belong to the year before, which starts in March
  have hyear : (if month ≤ 2 then yoe + era * 400 + (if month ≤ 2 then 1 else 0) - 1
      else yoe + era * 400 + (if month ≤ 2 then 1 else 0)) = yoe + era * 400 := by
    split_ifs <;> omega
  have hera : (yoe + era * 400) / 400 = era := by omega
  have hmonth' : (month + 9) % 12 = mp := by
    rw [hmonth]
    split_ifs <;> omega
  have hyoe : yoe + era * 400 - era * 400 = yoe := by omega
  rw [hyear, hera, hmonth', hyoe]
  omega

theorem daysFromCivil_civilFromDays (days : ℤ) :
    daysFromCivil (civilFromDays days).1 (civilFromDays days).2.1 (civilFromDays days).2.2 =
      days := by
  obtain ⟨era, yoe, doy, hyoe, hdoy, hday, hcivil⟩ := civilFromDays_spec days
  rw [hcivil, daysFromCivil_civilOf hyoe.1 hyoe.2 hdoy.1 hdoy.2, hday]

theorem civilFromDays_valid (days : ℤ) :
    (1 ≤ (civilFromDays days).2.1 ∧ (civilFromDays days).2.1 ≤ 12) ∧
      1 ≤ (civilFromDays days).2.2 ∧ (civilFromDays days).2.2 ≤ 31 := by
  obtain ⟨era, yoe, doy, -, hdoy, -, hcivil⟩ := civilFromDays_spec days
  rw [hcivil]
  exact civilOf_valid hdoy.1 hdoy.2

/-- The first day of a month is read back. -/
theorem civilFromDays_daysFromCivil (year month : ℤ) (h : 1 ≤ month) (h' : month ≤ 12) :
    civilFromDays (daysFromCivil year month 1) = (year, month, 1) := by
  set y := if month ≤ 2 then year - 1 else year with hy
  set mp := (month + 9) % 12 with hmp
  have hmp' : 0 ≤ mp ∧ mp < 12 := by omega
  have hday : daysFromCivil year month 1 = eraDay (y / 400) (y - y / 400 * 400) ((153 * mp + 2) / 5) := by
    unfold daysFromCivil eraDay
    rw [← hy, ← hmp]
    simp only
    ring
  rw [hday, civilFromDays_eraDay (by omega) (by omega) (by omega) (by omega)]
  unfold civilOf
  have hmonth : (5 * ((153 * mp + 2) / 5) + 2) / 153 = mp := by omega
  simp only [hmonth]
  have hm : (if mp < 10 then mp + 3 else mp - 9) = month := by
    split_ifs <;> omega
  rw [hm]
  refine Prod.ext ?_ (Prod.ext rfl ?_)
  · simp only
    split_ifs at hy ⊢ <;> omega
  · simp only
    omega

/-- The day before one that is not the first of its month. -/
theorem civilOf_pred {era yoe doy : ℤ} (h : 2 ≤ (civilOf era yoe doy).2.2) (hd : 0 ≤ doy) :
    1 ≤ doy ∧ (civilOf era yoe (doy - 1)).1 = (civilOf era yoe doy).1 ∧
      (civilOf era yoe (doy - 1)).2.1 = (civilOf era yoe doy).2.1 := by
  unfold civilOf at h ⊢
  simp only at h ⊢
  have hmp : (5 * (doy - 1) + 2) / 153 = (5 * doy + 2) / 153 := by omega
  rw [hmp]
  exact ⟨by omega, rfl, rfl⟩

theorem civilFromDays_pred {day : ℤ} (h : 2 ≤ (civilFromDays day).2.2) :
    (civilFromDays (day - 1)).1 = (civilFromDays day).1 ∧
      (civilFromDays (day - 1)).2.1 = (civilFromDays day).2.1 := by
  obtain ⟨era, yoe, doy, hyoe, hdoy, hday, hcivil⟩ := civilFromDays_spec day
  rw [hcivil] at h ⊢
  obtain ⟨hone, hyear, hmonth⟩ := civilOf_pred h hdoy.1
  have hpred : day - 1 = eraDay era yoe (doy - 1) := by
    rw [hday]
    unfold eraDay
    ring
  rw [hpred, civilFromDays_eraDay hyoe.1 hyoe.2 (by omega) (by omega)]
  exact ⟨hyear, hmonth⟩

/-- The count of days without the eras: years start in March. -/
theorem daysFromCivil_eq (year month day : ℤ) :
    daysFromCivil year month day =
      365 * (if month ≤ 2 then year - 1 else year) + (if month ≤ 2 then year - 1 else year) / 4 -
        (if month ≤ 2 then year - 1 else year) / 100 +
          (if month ≤ 2 then year - 1 else year) / 400 +
        ((153 * ((month + 9) % 12) + 2) / 5 + day - 1) - 719468 := by
  unfold daysFromCivil
  simp only
  generalize (if month ≤ 2 then year - 1 else year) = y
  omega

/-- From 1971 on: the start of 1971 is day 365. -/
theorem civilFromDays_year {days : ℤ} (h : 365 ≤ days) : 1971 ≤ (civilFromDays days).1 := by
  have hdays := daysFromCivil_civilFromDays days
  obtain ⟨hmonth, hday⟩ := civilFromDays_valid days
  rw [daysFromCivil_eq] at hdays
  by_contra hyear
  -- the last year before is counted out, since its leap days are too close to the bound
  have hyears : (civilFromDays days).1 = 1970 ∨ (civilFromDays days).1 ≤ 1969 := by omega
  rcases hyears with heq | hle
  · rw [heq] at hdays
    split_ifs at hdays <;> omega
  · split_ifs at hdays <;> omega

theorem le_daysFromCivil {year month : ℤ} (hyear : 1971 ≤ year) (h : 1 ≤ month) (h' : month ≤ 12) :
    365 ≤ daysFromCivil year month 1 := by
  rw [daysFromCivil_eq]
  rcases hyear.eq_or_lt with rfl | hlt
  · split_ifs <;> omega
  · split_ifs <;> omega

/-- A day is in the year that starts before it. -/
theorem civilFromDays_bounds (day : ℤ) :
    daysFromCivil (civilFromDays day).1 1 1 ≤ day ∧
      day < daysFromCivil ((civilFromDays day).1 + 1) 1 1 := by
  obtain ⟨hmonth, hday⟩ := civilFromDays_valid day
  have hdays := daysFromCivil_civilFromDays day
  rw [daysFromCivil_eq] at hdays
  rw [daysFromCivil_eq, daysFromCivil_eq]
  generalize (civilFromDays day).1 = y at *
  generalize (civilFromDays day).2.1 = m at *
  generalize (civilFromDays day).2.2 = d at *
  split_ifs at * <;> omega

theorem daysFromCivil_succ_year (year : ℤ) :
    daysFromCivil year 1 1 ≤ daysFromCivil (year + 1) 1 1 := by
  rw [daysFromCivil_eq, daysFromCivil_eq]
  split_ifs <;> omega

theorem getIntervalTypeStartTime_utc {t : ℤ} (h : 0 < t) :
    getIntervalTypeStartTime utc t .daily = t / 86400000 * 86400000 := by
  have hdays := daysFromCivil_civilFromDays (t / 1000 / 86400)
  unfold getIntervalTypeStartTime
  rw [if_neg (not_le.2 h)]
  simp only [utc, Int.sub_add_cancel, hdays]
  omega

theorem dayStarts_utc : utc.DayStarts where
  le t h := by
    rw [getIntervalTypeStartTime_utc h]
    omega
  same t t' h hle hday := by
    rw [getIntervalTypeStartTime_utc (h.trans_le hle)] at hday
    rw [getIntervalTypeStartTime_utc h, getIntervalTypeStartTime_utc (h.trans_le hle)]
    omega

end DeviceUsageStats
