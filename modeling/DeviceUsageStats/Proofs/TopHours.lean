import Mathlib
import DeviceUsageStats.Lib.TopElements
import DeviceUsageStats.Spec.HighFrequency

/-! The selection of high-frequency hours. The first sort ranks the hours of a bundle by their total use and
the second the remaining ones by their days of use; with thresholds that the configuration admits every
access lies inside its array. -/

namespace DeviceUsageStats

/-! ### The thresholds -/

/-- What the reader of the configuration admits. -/
structure AdmittedConfig (config : AppHighFrequencyPeriodThresholdConfig) : Prop where
  topNonneg : 0 ≤ config.minTopUseHoursLimit
  topLe : config.minTopUseHoursLimit ≤ numHourOneDay
  maxNonneg : 0 ≤ config.maxHighFreqHourNum
  maxLe : config.maxHighFreqHourNum ≤ numHourOneDay

namespace BundleActiveConfigReader

variable (json : CJson)

theorem getIntValue_bounds (root : json.Item) (parameterName : String)
    (minLimit maxLimit defaultValue : ℤ) (hmin : minLimit ≤ defaultValue)
    (hmax : defaultValue ≤ maxLimit) :
    minLimit ≤ getIntValue json root parameterName minLimit maxLimit defaultValue ∧
      getIntValue json root parameterName minLimit maxLimit defaultValue ≤ maxLimit := by
  unfold getIntValue
  split
  · exact ⟨hmin, hmax⟩
  · split_ifs with hnumber hrange
    · exact ⟨hmin, hmax⟩
    · exact ⟨hmin, hmax⟩
    · push Not at hrange
      exact hrange

theorem admitted_load (root : json.Item) {config : AppHighFrequencyPeriodThresholdConfig}
    (h : AdmittedConfig config) :
    AdmittedConfig (loadAppHighFreqPeriodThresholdConfig json root config) := by
  unfold loadAppHighFreqPeriodThresholdConfig
  split
  · exact h
  · rename_i item _
    split_ifs
    · exact h
    · obtain ⟨htop, htop'⟩ := getIntValue_bounds json item "MinTopUseHoursLimit"
        minimumLimit numHourOneDay defaultTopUseHoursLimit (by decide) (by decide)
      obtain ⟨hmax, hmax'⟩ := getIntValue_bounds json item "MaxHighFrequencyHourNum"
        minimumLimit numHourOneDay defaultMaxHighFrequencyHourNum (by decide) (by decide)
      exact ⟨htop, htop', hmax, hmax'⟩

theorem admitted_defaultConfig : AdmittedConfig defaultConfig :=
  ⟨by decide, by decide, by decide, by decide⟩

theorem admitted_loadConfig (roots : List json.Item) : AdmittedConfig (loadConfig json roots) := by
  unfold loadConfig
  induction roots using List.reverseRecOn with
  | nil => exact admitted_defaultConfig
  | append_singleton roots root ih =>
    rw [List.foldl_append]
    exact admitted_load json root ih

end BundleActiveConfigReader

/-! ### Arrays -/

theorem mapM_eq_some {α β : Type} {f : α → Option β} {g : α → β} {l : List α}
    (h : ∀ x ∈ l, f x = some (g x)) : l.mapM f = some (l.map g) := by
  induction l with
  | nil => rfl
  | cons x l ih =>
    rw [List.mapM_cons, h x (List.mem_cons_self ..), ih fun y hy => h y (List.mem_cons_of_mem _ hy)]
    rfl

theorem countDays_eq {value : ℤ → Option ℤ} {g : Fin numDayOneWeek → ℤ}
    (h : ∀ d : Fin numDayOneWeek, value ((d : ℕ) : ℤ) = some (g d)) (test : ℤ → Bool) :
    countDays value test = some (((Finset.univ.filter fun d => test (g d) = true).card : ℕ) : ℤ) := by
  have hfold : ∀ (l : List (Fin numDayOneWeek)) (count : ℤ),
      (l.map Fin.val).foldlM (fun count (weekDay : ℕ) =>
        (value weekDay).map fun v => if test v then count + 1 else count) count =
        some (count + (l.countP fun d => test (g d) : ℕ)) := by
    intro l
    induction l with
    | nil => simp
    | cons d l ih =>
      intro count
      rw [List.map_cons, List.foldlM_cons, h d, Option.map_some, Option.bind_eq_bind, Option.bind_some,
        ih, List.countP_cons]
      by_cases htest : test (g d) = true
      · simp only [htest, if_true, Nat.cast_add, Nat.cast_one, add_assoc, add_comm]
      · simp [htest]
  have hrange : List.range numDayOneWeek = (List.finRange numDayOneWeek).map Fin.val :=
    (List.map_coe_finRange_eq_range ..).symm
  unfold countDays
  rw [hrange, hfold, Int.zero_add, List.countP_eq_length_filter,
    ← List.toFinset_card_of_nodup ((List.nodup_finRange _).filter _), List.toFinset_filter]
  simp

namespace AppUsage

variable (usage : AppUsage)

def totalUse (hour : Fin numHourOneDay) : ℤ := usage.hourTotalUse.get hour

def useDays (hour : Fin numHourOneDay) : ℤ :=
  ((Finset.univ.filter fun d : Fin numDayOneWeek => (usage.hourUsage.get d).get hour > 0).card : ℕ)

def totalUseDays : ℤ :=
  ((Finset.univ.filter fun d : Fin numDayOneWeek => usage.dayUsage.get d ≠ 0).card : ℕ)

/-- The hours in descending order of their use, as the first sort leaves them. -/
structure Ranked (hours : List (Fin numHourOneDay)) : Prop where
  perm : hours.Perm (List.finRange numHourOneDay)
  sorted : hours.Pairwise fun a b => usage.totalUse b ≤ usage.totalUse a

variable {usage}

theorem Ranked.mem {hours : List (Fin numHourOneDay)} (h : usage.Ranked hours)
    (hour : Fin numHourOneDay) : hour ∈ hours := h.perm.mem_iff.2 (List.mem_finRange hour)

theorem Ranked.nodup {hours : List (Fin numHourOneDay)} (h : usage.Ranked hours) : hours.Nodup :=
  h.perm.nodup_iff.2 (List.nodup_finRange _)

theorem Ranked.length {hours : List (Fin numHourOneDay)} (h : usage.Ranked hours) :
    hours.length = numHourOneDay := by
  rw [h.perm.length_eq, List.length_finRange]

def element (usage : AppUsage) (hour : Fin numHourOneDay) : ElementWithIndex :=
  { useTimes := usage.totalUse hour, originlIndex := ((hour : ℕ) : ℤ) }

theorem exists_ranked (std : StdSort) (usage : AppUsage) :
    ∃ hours, usage.Ranked hours ∧
      std.sort (fun a b => a.useTimes > b.useTimes)
        ((List.finRange numHourOneDay).map usage.element) = hours.map usage.element := by
  obtain ⟨hours, hperm, hhours⟩ := TopElements.exists_map_of_perm
    (std.perm (fun a b : ElementWithIndex => decide (a.useTimes > b.useTimes))
      ((List.finRange numHourOneDay).map usage.element))
  refine ⟨hours, ⟨hperm, ?_⟩, hhours⟩
  have hsorted := std.sorted ElementWithIndex.useTimes
    ((List.finRange numHourOneDay).map usage.element)
  rw [hhours] at hsorted
  exact List.pairwise_map.1 hsorted

end AppUsage

/-! ### The hours of one bundle -/

variable {config : AppHighFrequencyPeriodThresholdConfig} {usage : AppUsage}

/-- The hours of the first ranks with enough days of use. -/
def candidateHours (config : AppHighFrequencyPeriodThresholdConfig) (usage : AppUsage)
    (hours : List (Fin numHourOneDay)) : List (Fin numHourOneDay) :=
  (hours.take config.minTopUseHoursLimit.toNat).filter fun h => config.minHourUseDays ≤ usage.useDays h

def hourIndex (h : Fin numHourOneDay) : ℤ := ((h : ℕ) : ℤ)

def withDays (usage : AppUsage) (h : Fin numHourOneDay) : ℤ × ℤ := (hourIndex h, usage.useDays h)

theorem hourElements_eq (usage : AppUsage) :
    (List.range numHourOneDay).mapM (fun (i : ℕ) =>
      (elementAt usage.hourTotalUse i).map fun useTimes =>
        { useTimes := useTimes, originlIndex := i : ElementWithIndex }) =
      some ((List.finRange numHourOneDay).map usage.element) := by
  have hrange : List.range numHourOneDay = (List.finRange numHourOneDay).map Fin.val :=
    (List.map_coe_finRange_eq_range ..).symm
  rw [hrange, List.mapM_map]
  refine mapM_eq_some fun h _ => ?_
  simp [elementAt, AppUsage.element, AppUsage.totalUse, Vector.get_eq_getElem]

theorem countDays_hourUsage (usage : AppUsage) (h : Fin numHourOneDay) :
    countDays (fun weekDay =>
      (elementAt usage.hourUsage weekDay).bind (elementAt · ((h : ℕ) : ℤ))) (· > 0) =
      some (usage.useDays h) := by
  rw [countDays_eq (g := fun d => (usage.hourUsage.get d).get h) fun d => by
    simp [elementAt, Vector.get_eq_getElem]]
  simp [AppUsage.useDays]

/-- The loop keeps the hours of the first ranks that have enough days of use. -/
theorem topHoursLoop_eq (config : AppHighFrequencyPeriodThresholdConfig) (usage : AppUsage)
    (hours : List (Fin numHourOneDay)) (n : ℕ) (hn : n ≤ hours.length) :
    (List.range n).foldlM (fun topHoursUsage i => do
      let element ← (hours.map usage.element)[i]?
      let hour := element.originlIndex
      let hourUseDays ← countDays
        (fun weekDay => (elementAt usage.hourUsage weekDay).bind (elementAt · hour)) (· > 0)
      some (if hourUseDays ≥ config.minHourUseDays then topHoursUsage ++ [(hour, hourUseDays)]
        else topHoursUsage)) [] =
      some (((hours.take n).filter fun h => config.minHourUseDays ≤ usage.useDays h).map
        (withDays usage)) := by
  induction n with
  | zero => simp
  | succ n ih =>
    rw [List.range_succ, List.foldlM_append, ih (by omega), List.take_succ_eq_append_getElem hn,
      List.filter_append, List.map_append]
    have helement : (hours.map usage.element)[n]? = some (usage.element hours[n]) := by
      rw [List.getElem?_map, List.getElem?_eq_getElem hn]
      rfl
    have hhour : (usage.element hours[n]).originlIndex = ((hours[n] : ℕ) : ℤ) := rfl
    simp only [Option.bind_eq_bind, Option.bind_some, List.foldlM_cons, List.foldlM_nil, helement,
      hhour, countDays_hourUsage]
    by_cases hmin : config.minHourUseDays ≤ usage.useDays hours[n]
    · simp [hmin, withDays, hourIndex]
    · simp [hmin]

theorem getTopHourUsage_eq (std : StdSort) (hconfig : AdmittedConfig config) (usage : AppUsage) :
    ∃ hours, usage.Ranked hours ∧ getTopHourUsage std config usage =
      some ((candidateHours config usage hours).map (withDays usage)) := by
  obtain ⟨hours, hranked, hsort⟩ := AppUsage.exists_ranked std usage
  have hlimit := hconfig.topLe
  have hlength := hranked.length
  refine ⟨hours, hranked, ?_⟩
  unfold getTopHourUsage
  rw [hourElements_eq]
  simp only [Option.bind_eq_bind, Option.bind_some, hsort]
  exact topHoursLoop_eq config usage hours _ (by omega)

/-- What is reported of the hours of a bundle, and what is left out. -/
structure SelectedHours (config : AppHighFrequencyPeriodThresholdConfig) (usage : AppUsage)
    (selected : List (Fin numHourOneDay)) : Prop where
  nodup : selected.Nodup
  length_le : selected.length ≤ config.maxHighFreqHourNum
  days : ∀ h ∈ selected, config.minHourUseDays ≤ usage.useDays h
  top : ∀ h ∈ selected, (Finset.univ.filter fun h' => usage.totalUse h < usage.totalUse h').card <
    config.minTopUseHoursLimit
  ordered : selected.Pairwise fun h h' => usage.useDays h' ≤ usage.useDays h
  omitted : ∀ h, h ∉ selected → config.minHourUseDays ≤ usage.useDays h →
    config.minTopUseHoursLimit ≤
        (Finset.univ.filter fun h' => h' ≠ h ∧ usage.totalUse h ≤ usage.totalUse h').card ∨
      (selected.length = config.maxHighFreqHourNum ∧
        ∀ r ∈ selected, usage.useDays h ≤ usage.useDays r)

theorem AppUsage.Ranked.top {hours : List (Fin numHourOneDay)} (h : usage.Ranked hours)
    (hconfig : AdmittedConfig config) {hour : Fin numHourOneDay}
    (hhour : hour ∈ candidateHours config usage hours) :
    config.minHourUseDays ≤ usage.useDays hour ∧
      (Finset.univ.filter fun h' => usage.totalUse hour < usage.totalUse h').card <
        config.minTopUseHoursLimit := by
  obtain ⟨htake, hdays⟩ := List.mem_filter.1 hhour
  have hcard := TopElements.card_above_lt h.sorted h.mem htake
  have hnonneg := hconfig.topNonneg
  exact ⟨of_decide_eq_true hdays, by omega⟩

theorem AppUsage.Ranked.others {hours : List (Fin numHourOneDay)} (h : usage.Ranked hours)
    {hour : Fin numHourOneDay}
    (hdays : config.minHourUseDays ≤ usage.useDays hour)
    (hhour : hour ∉ candidateHours config usage hours) :
    config.minTopUseHoursLimit ≤
      (Finset.univ.filter fun h' => h' ≠ hour ∧ usage.totalUse hour ≤ usage.totalUse h').card := by
  have hmem := h.mem hour
  rw [← List.take_append_drop config.minTopUseHoursLimit.toNat hours, List.mem_append] at hmem
  have hdrop : hour ∈ hours.drop config.minTopUseHoursLimit.toNat :=
    hmem.resolve_left fun htake => hhour (List.mem_filter.2 ⟨htake, decide_eq_true hdays⟩)
  have hcard := TopElements.le_card_others h.sorted h.nodup hdrop
  omega

theorem selectedHours_of_ranked (hconfig : AdmittedConfig config)
    {hours byDays : List (Fin numHourOneDay)} (hranked : usage.Ranked hours)
    (hperm : byDays.Perm (candidateHours config usage hours))
    (hsorted : byDays.Pairwise fun h h' => usage.useDays h' ≤ usage.useDays h) :
    SelectedHours config usage (byDays.take config.maxHighFreqHourNum.toNat) := by
  have hnodup : byDays.Nodup := hperm.nodup_iff.2
    ((hranked.nodup.sublist (List.take_sublist ..)).filter _)
  have hmem : ∀ h ∈ byDays.take config.maxHighFreqHourNum.toNat,
      h ∈ candidateHours config usage hours := fun h hh =>
    hperm.mem_iff.1 (List.mem_of_mem_take hh)
  have hmax := hconfig.maxNonneg
  have hlen := List.length_take_le config.maxHighFreqHourNum.toNat byDays
  refine ⟨hnodup.sublist (List.take_sublist ..), by omega, fun h hh => (hranked.top hconfig (hmem h hh)).1,
    fun h hh => (hranked.top hconfig (hmem h hh)).2, hsorted.sublist (List.take_sublist ..), ?_⟩
  intro h hnot hdays
  by_cases hcandidate : h ∈ candidateHours config usage hours
  · refine .inr ?_
    have hdrop : h ∈ byDays.drop config.maxHighFreqHourNum.toNat := by
      have hby := hperm.mem_iff.2 hcandidate
      rw [← List.take_append_drop config.maxHighFreqHourNum.toNat byDays, List.mem_append] at hby
      exact hby.resolve_left hnot
    have hle : config.maxHighFreqHourNum.toNat ≤ byDays.length := by
      by_contra hshort
      rw [List.drop_of_length_le (not_le.1 hshort).le] at hdrop
      cases hdrop
    refine ⟨?_, fun r hr => TopElements.key_le_of_mem hsorted hr hdrop⟩
    rw [List.length_take_of_le hle]
    omega
  · exact .inl (hranked.others hdays hcandidate)

/-! ### The loop over the bundles -/

/-- What the loop adds for a bundle: nothing for one that is not used on enough days or that has no hour
to report, else a selection of hours. -/
inductive Reported (config : AppHighFrequencyPeriodThresholdConfig) (app : String × AppUsage) :
    List BundleActiveHighFrequencyPeriod → Prop where
  | seldom (few : app.2.totalUseDays < config.minTotalUseDays) : Reported config app []
  | nothing (enough : config.minTotalUseDays ≤ app.2.totalUseDays)
    (omitted : ∀ h, config.minHourUseDays ≤ app.2.useDays h → config.minTopUseHoursLimit ≤
      (Finset.univ.filter fun h' => h' ≠ h ∧ app.2.totalUse h ≤ app.2.totalUse h').card) :
    Reported config app []
  | hours (enough : config.minTotalUseDays ≤ app.2.totalUseDays) (selected : List (Fin numHourOneDay))
    (good : SelectedHours config app.2 selected) :
    Reported config app
      [{ bundleName := app.1, highFreqHours := selected.map hourIndex }]

theorem getFreqBundleHour_spec (std : StdSort) (hconfig : AdmittedConfig config)
    (appFreqHours : List BundleActiveHighFrequencyPeriod) (app : String × AppUsage) :
    ∃ added, getFreqBundleHour std config appFreqHours app = some (appFreqHours ++ added) ∧
      Reported config app added := by
  have hdays : countDays (elementAt app.2.dayUsage ·) (· ≠ 0) = some app.2.totalUseDays := by
    rw [countDays_eq (g := app.2.dayUsage.get) fun d => by simp [elementAt, Vector.get_eq_getElem]]
    simp [AppUsage.totalUseDays]
  obtain ⟨hours, hranked, htop⟩ := getTopHourUsage_eq std hconfig app.2
  unfold getFreqBundleHour
  rw [hdays]
  simp only [Option.bind_eq_bind, Option.bind_some, htop, List.length_map]
  by_cases hfew : app.2.totalUseDays < config.minTotalUseDays
  · exact ⟨[], by simp [hfew], .seldom hfew⟩
  by_cases hnone : (candidateHours config app.2 hours).length > 0
  · -- some hour is left to report
    have hmax : (config.maxHighFreqHourNum % 2 ^ 64).toNat = config.maxHighFreqHourNum.toNat := by
      have h0 := hconfig.maxNonneg
      have h24 := hconfig.maxLe
      rw [Int.emod_eq_of_lt h0 (h24.trans_lt (by decide))]
    have hperm' := std.perm (fun a b => decide (a.2 > b.2))
      ((candidateHours config app.2 hours).map (withDays app.2))
    obtain ⟨byDays, hperm, hbyDays⟩ := TopElements.exists_map_of_perm hperm'
    have hsorted := std.sorted Prod.snd ((candidateHours config app.2 hours).map (withDays app.2))
    rw [hbyDays] at hsorted
    have htake : (if (byDays.map (withDays app.2)).length > config.maxHighFreqHourNum.toNat then
        (byDays.map (withDays app.2)).take config.maxHighFreqHourNum.toNat
        else byDays.map (withDays app.2)).map Prod.fst =
        (byDays.take config.maxHighFreqHourNum.toNat).map hourIndex := by
      have hall : (byDays.map (withDays app.2)).take config.maxHighFreqHourNum.toNat =
          (byDays.take config.maxHighFreqHourNum.toNat).map (withDays app.2) := List.map_take.symm
      split_ifs with hlong
      · rw [hall, List.map_map]
        rfl
      · rw [List.length_map, gt_iff_lt, not_lt] at hlong
        rw [List.take_of_length_le hlong, List.map_map]
        rfl
    refine ⟨_, ?_, .hours (not_lt.1 hfew) (byDays.take config.maxHighFreqHourNum.toNat)
      (selectedHours_of_ranked hconfig hranked hperm (List.pairwise_map.1 hsorted))⟩
    rw [if_neg hfew, if_pos hnone, hbyDays, hmax, htake]
  · refine ⟨[], by simp [hfew, hnone], .nothing (not_lt.1 hfew) fun h hh => ?_⟩
    refine hranked.others hh fun hmem => hnone ?_
    exact List.length_pos_of_mem hmem

theorem getFreqBundleHours_spec (std : StdSort) (hconfig : AdmittedConfig config)
    (appUsages : List (String × AppUsage)) :
    ∃ reports, getFreqBundleHours std config appUsages = some reports.flatten ∧
      List.Forall₂ (Reported config) appUsages reports := by
  unfold getFreqBundleHours
  induction appUsages using List.reverseRecOn with
  | nil => exact ⟨[], rfl, .nil⟩
  | append_singleton appUsages app ih =>
    obtain ⟨reports, hrun, hreports⟩ := ih
    obtain ⟨added, hadded, hreported⟩ := getFreqBundleHour_spec std hconfig reports.flatten app
    refine ⟨reports ++ [added], ?_, List.rel_append hreports (.cons hreported .nil)⟩
    rw [List.foldlM_append, hrun]
    simpa using hadded

/-- With the thresholds of any configuration files no access leaves its array, and each bundle gets the
report that it should. -/
theorem getFreqBundleHours_loaded (json : CJson) (roots : List json.Item) (std : StdSort)
    (appUsages : List (String × AppUsage)) :
    ∃ reports,
      getFreqBundleHours std (BundleActiveConfigReader.loadConfig json roots) appUsages =
        some reports.flatten ∧
      List.Forall₂ (Reported (BundleActiveConfigReader.loadConfig json roots)) appUsages reports :=
  getFreqBundleHours_spec std (BundleActiveConfigReader.admitted_loadConfig json roots) appUsages

def stableSort : StdSort where
  sort before l := l.insertionSort fun a b => !before b a
  perm before l := List.perm_insertionSort _ l
  sorted {α} key l := by
    have htotal : Std.Total fun a b : α => (!decide (key b > key a)) = true :=
      ⟨fun a b => by simpa using le_total (key b) (key a)⟩
    have htrans : IsTrans α fun a b : α => (!decide (key b > key a)) = true :=
      ⟨fun a b c hab hbc => by simp at hab hbc ⊢; omega⟩
    have h := List.pairwise_insertionSort (fun a b : α => (!decide (key b > key a)) = true) l
    exact h.imp fun hab => by simpa using hab

example : getFreqBundleHours stableSort
    { minTotalUseDays := 1, minTopUseHoursLimit := 6, minHourUseDays := 1, maxHighFreqHourNum := 1 }
    [("bundleNameA", { dayUsage := Vector.replicate 7 300
                       hourUsage := Vector.replicate 7 #v[1, 2, 3, 4, 5, 6, 7, 8, 9, 10, 11, 12, 13,
                         14, 15, 16, 17, 18, 19, 20, 21, 22, 23, 24]
                       hourTotalUse := #v[7, 14, 21, 28, 35, 42, 49, 56, 63, 70, 77, 84, 91, 98, 105,
                         112, 119, 126, 133, 140, 147, 154, 161, 168] }),
      ("bundleNameB", {})] =
    some [{ bundleName := "bundleNameA", highFreqHours := [23] }] := by decide +kernel

end DeviceUsageStats
