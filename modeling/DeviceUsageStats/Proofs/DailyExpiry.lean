import DeviceUsageStats.Proofs.CalendarStarts
import DeviceUsageStats.Sanity.SaveAndLoad

/-! The daily expiry of a service over every time-zone rule. A load adds 24 hours to the clock and truncates
the sum to its day, or, after a change of the time, adds them to the begin of the day; whether that is the
next midnight depends on the day that the sum falls into and on the flags that are in force there and at
the midnights. -/

namespace DeviceUsageStats

/-- The civil days are intervals, from the start of one to that of the next, that last between 23 and 25
hours. -/
structure CivilDays (z : ZoneRule) (dayStart : ℤ → ℤ) : Prop where
  day_iff : ∀ s day, civilDay (z.reading s) = day ↔ dayStart day ≤ s ∧ s < dayStart (day + 1)
  length : ∀ day, 82800 ≤ dayStart (day + 1) - dayStart day ∧
    dayStart (day + 1) - dayStart day ≤ 90000

variable {z : ZoneRule} {dayStart : ℤ → ℤ} {t : ℤ}

def dayOf (z : ZoneRule) (t : ℤ) : ℤ := civilDay (z.reading (t / 1000))

/-- The next local midnight: the first second of the next civil day. -/
def nextMidnight (z : ZoneRule) (dayStart : ℤ → ℤ) (t : ℤ) : ℤ := dayStart (dayOf z t + 1)

/-- The offset that is presumed for the midnight of a day, with the flag of a time stamp. -/
def midnightOffset (z : ZoneRule) (t day : ℤ) : ℤ :=
  z.presumed (z.isDst (t / 1000)) (day * secondsOfDay)

theorem truncatedSeconds_daily (z : ZoneRule) (t : ℤ) :
    truncatedSeconds z .daily (t / 1000) =
      dayOf z t * secondsOfDay - midnightOffset z t (dayOf z t) := rfl

theorem CivilDays.lt_nextMidnight (h : CivilDays z dayStart) (t : ℤ) :
    t / 1000 < nextMidnight z dayStart t :=
  ((h.day_iff (t / 1000) _).1 rfl).2

theorem CivilDays.dayStart_strictMono (h : CivilDays z dayStart) : StrictMono dayStart :=
  strictMono_int_of_lt_succ fun day => by
    have hlength := (h.length day).1
    omega

theorem CivilDays.nextMidnight_le_iff (h : CivilDays z dayStart) (t x : ℤ) :
    nextMidnight z dayStart t ≤ x / 1000 ↔ dayOf z t < dayOf z x := by
  obtain ⟨hle, hlt⟩ := (h.day_iff (x / 1000) _).1 rfl
  change dayStart (dayOf z x) ≤ x / 1000 at hle
  change x / 1000 < dayStart (dayOf z x + 1) at hlt
  unfold nextMidnight
  refine ⟨fun hx => ?_, fun hday => ?_⟩
  · have hday := h.dayStart_strictMono.lt_iff_lt.1 (hx.trans_lt hlt)
    omega
  · exact (h.dayStart_strictMono.monotone hday).trans hle

/-! ### What a load leaves -/

/-- The begin of the day is not after the clock, and the expiry is the next local midnight: an event
triggers the rollover exactly if its civil day is a later one. -/
structure Brackets (z : ZoneRule) (dayStart : ℤ → ℤ) (t : ℤ) (s : ServiceState) : Prop where
  begin_le : (s.currentStats .daily).beginTime ≤ t
  lt_expiry : t < s.dailyExpiryDate.time
  midnight : s.dailyExpiryDate.time = nextMidnight z dayStart t * 1000
  rollover : ∀ x, x ≥ s.dailyExpiryDate.time ↔ dayOf z t < dayOf z x

theorem CivilDays.brackets_iff (h : CivilDays z dayStart) (s : ServiceState) :
    Brackets z dayStart t s ↔ (s.currentStats .daily).beginTime ≤ t ∧
      s.dailyExpiryDate.time = nextMidnight z dayStart t * 1000 := by
  refine ⟨fun hb => ⟨hb.begin_le, hb.midnight⟩, fun ⟨hbegin, hmidnight⟩ => ⟨hbegin, ?_, hmidnight,
    fun x => ?_⟩⟩
  · have hlt := h.lt_nextMidnight t
    omega
  · rw [← h.nextMidnight_le_iff, hmidnight]
    omega

theorem beginTime_loadActiveStats (tz : TimeZone) (s : ServiceState) (t : ℤ)
    (force timeChanged : Bool) (i : IntervalType) :
    ((s.loadActiveStats tz t force timeChanged).currentStats i).beginTime =
      truncate tz s.debugUserService i t := by
  rw [ServiceState.currentStats_loadActiveStats]
  split_ifs with hkeeps
  · exact hkeeps.2
  · exact (ServiceState.loadedPeriod_bounds tz t s i).1

theorem dailyExpiryDate_loadActiveStats (tz : TimeZone) (s : ServiceState) (t : ℤ)
    (force timeChanged : Bool) (hdebug : s.debugUserService = false)
    (hcalendar : s.dailyExpiryDate.debug = false) :
    (s.loadActiveStats tz t force timeChanged).dailyExpiryDate.time =
      if timeChanged then truncate tz false .daily t + oneDayTime
      else truncate tz false .daily (t + oneDayTime) := by
  have hbegin := beginTime_loadActiveStats tz s t force timeChanged .daily
  obtain ⟨hsource, -⟩ := ServiceState.foldl_loadActiveStatsOf tz t force IntervalType.all (by decide) s
  rw [hdebug] at hbegin
  unfold ServiceState.loadActiveStats at hbegin ⊢
  generalize IntervalType.all.foldl (ServiceState.loadActiveStatsOf tz t force) s = loaded
    at hsource hbegin ⊢
  have hflag : loaded.dailyExpiryDate.debug = false := by rw [hsource.expiry, hcalendar]
  change (loaded.currentStats .daily).beginTime = truncate tz false .daily t at hbegin
  cases timeChanged with
  | true =>
    change (loaded.currentStats .daily).beginTime +
      1 * periodLength loaded.dailyExpiryDate.debug .daily = _
    rw [hbegin, hflag, one_mul]
    rfl
  | false =>
    change (BundleActiveCalendar.truncateTo tz
      { time := t + 1 * periodLength loaded.dailyExpiryDate.debug .daily
        debug := loaded.dailyExpiryDate.debug } .daily).time = _
    rw [hflag, one_mul]
    rfl

/-! ### When the expiry is right -/

/-- `GetIntervalTypeStartTime` has no start of the day, or one that is its error value: the calendar keeps
the time that it has. -/
def KeepsTime (z : ZoneRule) (t : ℤ) : Prop :=
  t ≤ 0 ∨ midnightOffset z t (dayOf z t) = dayOf z t * secondsOfDay

instance (z : ZoneRule) (t : ℤ) : Decidable (KeepsTime z t) :=
  inferInstanceAs (Decidable (_ ∨ _))

theorem truncate_daily (z : ZoneRule) (t : ℤ) :
    truncate (.ofRule z) false .daily t =
      if KeepsTime z t then t
      else (dayOf z t * secondsOfDay - midnightOffset z t (dayOf z t)) * 1000 := by
  rw [← truncatedSeconds_daily]
  split_ifs with hkeeps
  · have herror : getIntervalTypeStartTime (.ofRule z) t .daily = 0 := by
      rcases le_or_gt t 0 with ht | ht
      · exact if_pos ht
      · have hoffset := hkeeps.resolve_left (not_le.2 ht)
        rw [getIntervalTypeStartTime_ofRule ht, truncatedSeconds_daily, hoffset, sub_self, zero_mul]
    unfold truncate BundleActiveCalendar.truncateTo
    simp [herror]
  · obtain ⟨hpos, hoffset⟩ := not_or.1 hkeeps
    refine truncate_ofRule (not_le.1 hpos) ?_
    rw [truncatedSeconds_daily]
    omega

/-- Under the flag of the time stamp the clock shows the midnight of its civil day, and not after it. -/
def DayBegun (z : ZoneRule) (t : ℤ) : Prop :=
  0 < t → (∃ d, z.isDst d = z.isDst (t / 1000) ∧ z.reading d = dayOf z t * secondsOfDay) ∧
    ∀ d, z.isDst d = z.isDst (t / 1000) → z.reading d = dayOf z t * secondsOfDay → d ≤ t / 1000

/-- 24 hours after `t` it is the next civil day, which begins at its midnight and under the flag that is in
force then, and only there the clock shows that midnight under that flag. Where the calendar would keep the
time, it has to be the next midnight. -/
inductive NextDayBegins (z : ZoneRule) (dayStart : ℤ → ℤ) (t : ℤ) : Prop where
  | nextDay (positive : 0 < t + oneDayTime) (clear : nextMidnight z dayStart t ≠ 0)
    (day : dayOf z (t + oneDayTime) = dayOf z t + 1)
    (midnight : z.ReadOnlyAt (z.isDst ((t + oneDayTime) / 1000)) ((dayOf z t + 1) * secondsOfDay)
      (nextMidnight z dayStart t))
  | kept (negative : t + oneDayTime ≤ 0) (time : t + oneDayTime = nextMidnight z dayStart t * 1000)

/-- Under the flag of `t` the clock shows the midnight of its civil day 24 hours before the next midnight,
and only there. -/
inductive DayOfOneLength (z : ZoneRule) (dayStart : ℤ → ℤ) (t : ℤ) : Prop where
  | sameDay (positive : 0 < t) (clear : nextMidnight z dayStart t ≠ secondsOfDay)
    (midnight : z.ReadOnlyAt (z.isDst (t / 1000)) (dayOf z t * secondsOfDay)
      (nextMidnight z dayStart t - secondsOfDay))
  | kept (negative : t ≤ 0) (time : t + oneDayTime = nextMidnight z dayStart t * 1000)

/-- The zone around a time stamp with which a load is right. -/
structure ClockRegular (z : ZoneRule) (dayStart : ℤ → ℤ) (t : ℤ) (timeChanged : Bool) : Prop where
  begun : DayBegun z t
  unchanged : timeChanged = false → NextDayBegins z dayStart t
  changed : timeChanged = true → DayOfOneLength z dayStart t

theorem truncate_le_of_dayBegun (h : DayBegun z t) : truncate (.ofRule z) false .daily t ≤ t := by
  rw [truncate_daily]
  split_ifs with hkeeps
  · exact le_rfl
  · obtain ⟨hshown, hle⟩ := h (not_le.1 (not_or.1 hkeeps).1)
    obtain ⟨hflag, hreads⟩ := ZoneRule.reading_sub_presumed hshown
    have hbegin := hle _ hflag hreads
    unfold midnightOffset
    omega

theorem truncate_of_readOnlyAt {m : ℤ} (hpos : 0 < t) (hclear : m ≠ 0)
    (h : z.ReadOnlyAt (z.isDst (t / 1000)) (dayOf z t * secondsOfDay) m) :
    truncate (.ofRule z) false .daily t = m * 1000 := by
  have hm := h.sub_presumed
  rw [truncate_daily, if_neg]
  · unfold midnightOffset
    rw [hm]
  · unfold KeepsTime midnightOffset
    omega

theorem truncate_of_nonpos (h : t ≤ 0) : truncate (.ofRule z) false .daily t = t := by
  rw [truncate_daily, if_pos (.inl h)]

theorem NextDayBegins.truncate_eq (h : NextDayBegins z dayStart t) :
    truncate (.ofRule z) false .daily (t + oneDayTime) = nextMidnight z dayStart t * 1000 := by
  cases h with
  | nextDay positive clear day midnight =>
    refine truncate_of_readOnlyAt positive clear ?_
    rwa [day]
  | kept negative time => rw [truncate_of_nonpos negative, time]

theorem DayOfOneLength.truncate_eq (h : DayOfOneLength z dayStart t) :
    truncate (.ofRule z) false .daily t + oneDayTime = nextMidnight z dayStart t * 1000 := by
  cases h with
  | sameDay positive clear midnight =>
    rw [truncate_of_readOnlyAt positive (sub_ne_zero.2 clear) midnight]
    unfold oneDayTime secondsOfDay
    omega
  | kept negative time => rw [truncate_of_nonpos negative, time]

/-- A load of a service that is not in debug mode, at any time. -/
theorem loadActiveStats_brackets (z : ZoneRule) (dayStart : ℤ → ℤ) (h : CivilDays z dayStart)
    (s : ServiceState) (hdebug : s.debugUserService = false)
    (hcalendar : s.dailyExpiryDate.debug = false) (t : ℤ) (force timeChanged : Bool)
    (hregular : ClockRegular z dayStart t timeChanged) :
    Brackets z dayStart t (s.loadActiveStats (.ofRule z) t force timeChanged) := by
  rw [h.brackets_iff, beginTime_loadActiveStats, hdebug,
    dailyExpiryDate_loadActiveStats _ s t force timeChanged hdebug hcalendar]
  refine ⟨truncate_le_of_dayBegun hregular.begun, ?_⟩
  cases timeChanged with
  | false =>
    rw [if_neg Bool.false_ne_true]
    exact (hregular.unchanged rfl).truncate_eq
  | true =>
    rw [if_pos rfl]
    exact (hregular.changed rfl).truncate_eq

/-- The days of the summer of 2024 start an hour earlier. -/
def summerDayStart (day : ℤ) : ℤ :=
  day * secondsOfDay - if 19814 ≤ day ∧ day ≤ 20023 then 7200 else 3600

theorem civilDays_summer2024 : CivilDays summer2024 summerDayStart where
  day_iff s day := by
    simp only [civilDay, ZoneRule.reading, summer2024, ZoneRule.twoOffsets, summerDayStart,
      secondsOfDay, decide_eq_true_eq]
    split_ifs <;> omega
  length day := by
    simp only [summerDayStart, secondsOfDay]
    split_ifs <;> omega

theorem loadActiveStats_brackets_noon :
    Brackets summer2024 summerDayStart 1719828000000
      (ServiceState.loadActiveStats (.ofRule summer2024) { userId := 0 } 1719828000000 false
        false) := by
  have hday : dayOf summer2024 1719828000000 * secondsOfDay = summer2024.reading 1719784800 := by
    decide +kernel
  refine loadActiveStats_brackets summer2024 summerDayStart civilDays_summer2024 { userId := 0 } rfl rfl
    1719828000000 false false ⟨fun _ => ⟨⟨1719784800, by decide +kernel, hday.symm⟩,
      fun d hflag hreads => ?_⟩, fun _ => .nextDay (by decide) (by decide +kernel) (by decide +kernel)
        ⟨by decide +kernel, by decide +kernel, fun d hflag hreads => ?_⟩, (nomatch ·)⟩
  · have hbegin : d = 1719784800 :=
      ZoneRule.eq_of_twoOffsets (hflag.trans (by decide +kernel)) (hreads.trans hday)
    rw [hbegin]
    decide
  · exact ZoneRule.eq_of_twoOffsets (hflag.trans (by decide +kernel)) (hreads.trans (by decide +kernel))

/-- In the first hour of a day of 25 hours, 24 hours later it is the same day. -/
theorem loadActiveStats_longDay :
    CivilDays summer2024 summerDayStart ∧
      (ServiceState.loadActiveStats (.ofRule summer2024) { userId := 0 } 1729981800000 false
        false).dailyExpiryDate.time = 1729983600000 ∧
      nextMidnight summer2024 summerDayStart 1729981800000 * 1000 = 1730070000000 ∧
      ¬ Brackets summer2024 summerDayStart 1729981800000
        (ServiceState.loadActiveStats (.ofRule summer2024) { userId := 0 } 1729981800000 false
          false) := by
  have hexpiry : (ServiceState.loadActiveStats (.ofRule summer2024) { userId := 0 } 1729981800000
      false false).dailyExpiryDate.time = 1729983600000 := by
    rw [dailyExpiryDate_loadActiveStats _ _ _ _ _ rfl rfl]
    decide +kernel
  have hnext : nextMidnight summer2024 summerDayStart 1729981800000 * 1000 = 1730070000000 := by
    decide +kernel
  refine ⟨civilDays_summer2024, hexpiry, hnext, fun h => ?_⟩
  have hmidnight := h.midnight
  rw [hexpiry, hnext] at hmidnight
  revert hmidnight
  decide

end DeviceUsageStats
