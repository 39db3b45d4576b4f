import DeviceUsageStats.Sanity.SaveAndLoad
import DeviceUsageStats.Spec.ShutDown

/-! A shutdown is reported to the user with the least id, and then the loop over the users ends. -/

namespace DeviceUsageStats

namespace BundleActivePackageStats

variable {stats : BundleActivePackageStats} {t : ℤ}

structure BookedUpTo (t : ℤ) (stats : BundleActivePackageStats) : Prop where
  abilities : stats.hasFrontAbility = true → t ≤ stats.lastTimeUsed
  tasks : stats.anyLongTimeTaskStarted = true → t ≤ stats.lastContiniousTaskUsed

theorem incrementTimeUsed_spec (stats : BundleActivePackageStats) (t : ℤ) :
    t ≤ (stats.incrementTimeUsed t).lastTimeUsed ∧
      (stats.incrementTimeUsed t).abilities = stats.abilities ∧
      (stats.incrementTimeUsed t).longTimeTasks = stats.longTimeTasks ∧
      (stats.incrementTimeUsed t).lastContiniousTaskUsed = stats.lastContiniousTaskUsed := by
  unfold incrementTimeUsed
  split_ifs with h
  · exact ⟨le_rfl, rfl, rfl, rfl⟩
  · exact ⟨not_lt.1 h, rfl, rfl, rfl⟩

theorem incrementServiceTimeUsed_spec (stats : BundleActivePackageStats) (t : ℤ) :
    t ≤ (stats.incrementServiceTimeUsed t).lastContiniousTaskUsed ∧
      (stats.incrementServiceTimeUsed t).abilities = stats.abilities ∧
      (stats.incrementServiceTimeUsed t).longTimeTasks = stats.longTimeTasks ∧
      (stats.incrementServiceTimeUsed t).lastTimeUsed = stats.lastTimeUsed := by
  unfold incrementServiceTimeUsed
  split_ifs with h
  · exact ⟨le_rfl, rfl, rfl, rfl⟩
  · exact ⟨not_lt.1 h, rfl, rfl, rfl⟩

theorem bookedUpTo_tick (stats : BundleActivePackageStats) (t : ℤ) :
    (stats.tick t).BookedUpTo t := by
  obtain ⟨htime, habilities, htasks, hlast⟩ := incrementTimeUsed_spec stats t
  unfold tick
  by_cases hfront : stats.hasFrontAbility = true
  · obtain ⟨htime', habilities', htasks', hlast'⟩ :=
      incrementServiceTimeUsed_spec (stats.incrementTimeUsed t) t
    simp only [if_pos hfront]
    split_ifs with htask
    · exact ⟨fun _ => hlast' ▸ htime, fun _ => htime'⟩
    · exact ⟨fun _ => htime, fun h => absurd h htask⟩
  · obtain ⟨htime', habilities', -, -⟩ := incrementServiceTimeUsed_spec stats t
    simp only [if_neg hfront]
    split_ifs with htask
    · refine ⟨fun h => absurd ?_ hfront, fun _ => htime'⟩
      rwa [hasFrontAbility, habilities'] at h
    · exact ⟨fun h => absurd h hfront, fun h => absurd h htask⟩

end BundleActivePackageStats

namespace ServiceState

open BundleActivePackageStats (BookedUpTo)

variable {s : ServiceState} {tz : TimeZone} {t : ℤ} {i : IntervalType}

def PeriodBookedUpTo (t : ℤ) (stats : BundleActivePeriodStats) : Prop :=
  ∀ (k : String) (usage : BundleActivePackageStats), stats.bundleStats[k]? = some usage →
    usage.BookedUpTo t

theorem periodBookedUpTo_update (p : BundleActivePeriodStats) (uids : PackageContainUidMap)
    (b n : String) (t : ℤ) (a : String) (uid : ℤ) :
    PeriodBookedUpTo t (p.update uids b n t .shutdown a uid).1 := by
  intro k usage hk
  have hstats : (p.update uids b n t .shutdown a uid).1.bundleStats =
      Entries.mapEntries (fun _ usage => usage.update "" t .shutdown a) p.bundleStats := by
    unfold BundleActivePeriodStats.update BundleActivePeriodStats.extendEndTime
    rw [if_pos (.inl rfl)]
    simp only
    split_ifs <;> rfl
  rw [hstats, Entries.getElem?_mapEntries, Option.map_eq_some_iff] at hk
  obtain ⟨usage₀, -, rfl⟩ := hk
  obtain ⟨habilities, htasks⟩ := BundleActivePackageStats.bookedUpTo_tick usage₀ t
  exact ⟨habilities, htasks⟩

theorem periodBookedUpTo_foldl (event : BundleActiveEvent) (hevent : event.eventId = .shutdown)
    (l : List IntervalType) (s : ServiceState)
    (h : i ∈ l ∨ PeriodBookedUpTo event.timeStamp (s.currentStats i)) :
    PeriodBookedUpTo event.timeStamp ((l.foldl (fun s i =>
      updateStats i event.bundleName event.continuousTaskAbilityName event.timeStamp event.eventId
        event.abilityId event.uid s) s).currentStats i) := by
  induction l generalizing s with
  | nil => exact h.resolve_left List.not_mem_nil
  | cons j l ih =>
    rw [List.foldl_cons]
    refine ih _ ?_
    by_cases hij : i = j
    · subst hij
      right
      unfold updateStats setStats
      simp only [Function.update_self, hevent]
      exact periodBookedUpTo_update _ _ _ _ _ _ _
    · refine h.imp (fun hmem => (List.mem_cons.1 hmem).resolve_left hij) fun hbooked => ?_
      unfold updateStats setStats
      simp only [Function.update_of_ne hij]
      exact hbooked

theorem periodBookedUpTo_reportForShutdown (s : ServiceState) (event : BundleActiveEvent)
    (hevent : event.eventId = .shutdown) (i : IntervalType) :
    PeriodBookedUpTo event.timeStamp ((s.reportForShutdown tz event).currentStats i) := by
  have hnotify : ∀ s : ServiceState, s.notifyStatsChanged.currentStats = s.currentStats := by
    intro s
    unfold notifyStatsChanged
    split_ifs <;> rfl
  have hall : i ∈ IntervalType.all := by cases i <;> decide
  unfold reportForShutdown
  rw [if_neg (not_not.2 hevent)]
  simp only [hnotify]
  exact periodBookedUpTo_foldl event hevent IntervalType.all _ (.inl hall)

theorem PeriodBookedUpTo.restoreStats (h : PeriodBookedUpTo t (s.currentStats i)) (forced : Bool) :
    PeriodBookedUpTo t ((s.restoreStats forced).currentStats i) := by
  obtain ⟨events, hstats⟩ := currentStats_restoreStats s forced i
  rw [hstats]
  exact h

end ServiceState

namespace BundleActiveCore

open DatabaseState (keys_sorted keys_eq_of_sorted)
open ServiceState (PeriodBookedUpTo)

variable {core : BundleActiveCore} {tz : TimeZone} {event : BundleActiveEvent} {obtained : ℤ → Bool}
  {clock : Clock} {u : ℤ} {i : IntervalType}

/-- The event as `ConvertToSystemTimeLocked` makes it, once, after the clock was checked. -/
def convertedEvent (tz : TimeZone) (core : BundleActiveCore) (event : BundleActiveEvent)
    (clock : Clock) : BundleActiveEvent :=
  (core.checkTimeChangeAndGetWallTime tz 0 clock).2.convertToSystemTimeLocked event

/-- Every running session of a user has been booked up to a time. -/
def UserBookedUpTo (core : BundleActiveCore) (t u : ℤ) : Prop :=
  ∀ service : BundleActiveUserService, core.userStatServices[u]? = some service →
    ∀ i, PeriodBookedUpTo t (service.currentStats i)

/-- What a report to all users is to do, for the users whose services are obtained. -/
structure ReachesEveryUser (tz : TimeZone) (core : BundleActiveCore) (event : BundleActiveEvent)
    (obtained : ℤ → Bool) (clock : Clock) : Prop where
  once : ((core.reportEventToAllUserId tz event obtained clock).delivered.map Prod.fst).Perm
    (core.userStatServices.keys.filter obtained)
  stamp : ∀ call ∈ (core.reportEventToAllUserId tz event obtained clock).delivered,
    call.2 = core.convertedEvent tz event clock
  booked : event.eventId = .shutdown → ∀ u ∈ core.userStatServices, obtained u = true →
    (core.reportEventToAllUserId tz event obtained clock).core.restoreAllData.UserBookedUpTo
      (core.convertedEvent tz event clock).timeStamp u

def ClockReadable (clock : Clock) : Prop :=
  clock.systemTime ≠ -1 ∧ clock.realTime ≠ -1 ∧ clock.systemTime ≠ errTimeOperationFailed

/-- The report reaches the user with the least id, if the clock can be read. -/
def OnlyLeastUser (core : BundleActiveCore) (obtained : ℤ → Bool) (clock : Clock) : Prop :=
  ∀ u ∈ core.userStatServices, obtained u = true →
    ClockReadable clock ∧ ∀ u' ∈ core.userStatServices, u ≤ u'

theorem checkTimeChange_fst (core : BundleActiveCore) (u : ℤ) (clock : Clock) :
    (core.checkTimeChangeAndGetWallTime tz u clock).1 ≠ errTimeOperationFailed ↔
      ClockReadable clock := by
  unfold checkTimeChangeAndGetWallTime ClockReadable
  simp only
  split_ifs with hfail hsmall hshot
  · simp only [ne_eq, not_true_eq_false, false_iff]
    tauto
  all_goals
    simp only [ne_eq]
    tauto

theorem mem_withService (core : BundleActiveCore) (u : ℤ) (f : ServiceState → ServiceState) (v : ℤ) :
    v ∈ (core.withService u f).userStatServices ↔ v ∈ core.userStatServices := by
  unfold withService
  cases hu : core.userStatServices[u]? with
  | none => rfl
  | some service =>
    simp only [putService, Std.TreeMap.mem_insert]
    refine ⟨fun h => h.elim (fun heq => ?_) id, .inr⟩
    rw [← Std.LawfulEqCmp.eq_of_compare heq, Std.TreeMap.mem_iff_isSome_getElem?, hu]
    rfl

theorem mem_checkTimeChange (core : BundleActiveCore) (u : ℤ) (clock : Clock) (v : ℤ) :
    v ∈ (core.checkTimeChangeAndGetWallTime tz u clock).2.userStatServices ↔
      v ∈ core.userStatServices := by
  unfold checkTimeChangeAndGetWallTime
  simp only
  split_ifs
  · rfl
  · rfl
  · rfl
  · cases core.userStatServices[u]? with
    | none => rfl
    | some service => exact mem_withService core u _ v

theorem UserBookedUpTo.restoreAllData {t : ℤ} (h : core.UserBookedUpTo t u) :
    core.restoreAllData.UserBookedUpTo t u := by
  have hloop : (core.userStatServices.keys.foldl (fun core userId =>
      core.withService userId (·.restoreStats true)) core).UserBookedUpTo t u := by
    refine List.foldlRecOn (motive := (UserBookedUpTo · t u)) _ _ h fun c hc v _ => ?_
    unfold withService
    cases hv : c.userStatServices[v]? with
    | none => exact hc
    | some service =>
      intro service' hservice' i
      simp only [putService, Std.TreeMap.getElem?_insert] at hservice'
      split_ifs at hservice' with heq
      · obtain rfl := Option.some.inj hservice'
        obtain rfl := Std.LawfulEqCmp.eq_of_compare heq
        have hbooked : PeriodBookedUpTo t ((c.serviceState service).currentStats i) := hc service hv i
        exact hbooked.restoreStats true
      · exact hc service' hservice' i
  exact hloop

theorem keys_checkTimeChange (core : BundleActiveCore) (u : ℤ) (clock : Clock) :
    (core.checkTimeChangeAndGetWallTime tz u clock).2.userStatServices.keys =
      core.userStatServices.keys :=
  keys_eq_of_sorted (keys_sorted _) fun x =>
    (mem_checkTimeChange core u clock x).trans Std.TreeMap.mem_keys.symm

instance (clock : Clock) : Decidable (ClockReadable clock) := inferInstanceAs (Decidable (_ ∧ _ ∧ _))

/-- The report as a whole: the first user of the map, and no other. -/
theorem delivered_eq (tz : TimeZone) (core : BundleActiveCore) (event : BundleActiveEvent)
    (obtained : ℤ → Bool) (clock : Clock) :
    (core.reportEventToAllUserId tz event obtained clock).delivered =
      if ClockReadable clock then
        ((core.userStatServices.keys.head?.filter obtained).map fun u =>
          (u, core.convertedEvent tz event clock)).toList
      else [] := by
  have hread := @checkTimeChange_fst tz core 0 clock
  have hkeys := @keys_checkTimeChange tz core 0 clock
  unfold reportEventToAllUserId convertedEvent
  generalize core.checkTimeChangeAndGetWallTime tz 0 clock = checked at hread hkeys ⊢
  obtain ⟨timeNow, core₁⟩ := checked
  simp only at hread hkeys ⊢
  by_cases hfail : timeNow = errTimeOperationFailed
  · rw [if_pos hfail, if_neg fun h => hread.2 h hfail]
  rw [if_neg hfail, if_pos (hread.1 hfail), ← hkeys]
  split_ifs with hempty
  · rw [← Std.TreeMap.isEmpty_keys, List.isEmpty_iff] at hempty
    rw [hempty]
    rfl
  · cases core₁.userStatServices.keys with
    | nil => rfl
    | cons u rest =>
      rw [reportToEachUser, List.head?_cons, Option.filter_some]
      cases obtained u <;> rfl

theorem userBookedUpTo_withService {f : ServiceState → ServiceState} {t : ℤ}
    (hf : ∀ s i, PeriodBookedUpTo t ((f s).currentStats i)) :
    (core.withService u f).UserBookedUpTo t u := by
  intro service' hservice' i
  unfold withService at hservice'
  cases hu : core.userStatServices[u]? with
  | none =>
    simp only [hu] at hservice'
    cases hservice'
  | some service =>
    simp only [hu, putService, Std.TreeMap.getElem?_insert_self] at hservice'
    obtain rfl := Option.some.inj hservice'
    exact hf (core.serviceState service) i

theorem userBookedUpTo_of_delivered (hevent : event.eventId = .shutdown)
    (h : (core.reportEventToAllUserId tz event obtained clock).delivered ≠ [])
    (hu : core.userStatServices.keys.head? = some u) :
    (core.reportEventToAllUserId tz event obtained clock).core.UserBookedUpTo
      (core.convertedEvent tz event clock).timeStamp u := by
  have hkeys := @keys_checkTimeChange tz core 0 clock
  unfold reportEventToAllUserId convertedEvent at *
  generalize core.checkTimeChangeAndGetWallTime tz 0 clock = checked at h hkeys ⊢
  obtain ⟨timeNow, core₁⟩ := checked
  simp only at h hkeys ⊢
  rw [← hkeys] at hu
  split_ifs at h ⊢
  · exact absurd rfl h
  · exact absurd rfl h
  · cases hlist : core₁.userStatServices.keys with
    | nil =>
      rw [hlist] at hu
      cases hu
    | cons v rest =>
      rw [hlist] at hu h
      obtain rfl := Option.some.inj hu
      unfold reportToEachUser at h ⊢
      simp only at h ⊢
      split_ifs at h ⊢
      · exact absurd rfl h
      · exact userBookedUpTo_withService fun s i =>
          ServiceState.periodBookedUpTo_reportForShutdown s (core₁.convertToSystemTimeLocked event)
            hevent i

theorem OnlyLeastUser.delivered (h : OnlyLeastUser core obtained clock) (tz : TimeZone)
    (event : BundleActiveEvent) :
    (core.reportEventToAllUserId tz event obtained clock).delivered =
      (core.userStatServices.keys.filter obtained).map fun u =>
        (u, core.convertedEvent tz event clock) := by
  have hsorted := keys_sorted core.userStatServices
  have hmem : ∀ u, u ∈ core.userStatServices ↔ u ∈ core.userStatServices.keys := fun u =>
    Std.TreeMap.mem_keys.symm
  rw [delivered_eq]
  cases hkeys : core.userStatServices.keys with
  | nil => split_ifs <;> rfl
  | cons v rest =>
    rw [hkeys] at hsorted
    have hrest : rest.filter obtained = [] := by
      refine List.filter_eq_nil_iff.2 fun w hw hobtained => ?_
      have hle := (h w ((hmem w).2 (hkeys ▸ List.mem_cons_of_mem v hw)) hobtained).2 v
        ((hmem v).2 (hkeys ▸ List.mem_cons_self))
      exact absurd ((List.pairwise_cons.1 hsorted).1 w hw) (not_lt.2 hle)
    rw [List.head?_cons, Option.filter_some, List.filter_cons, hrest]
    by_cases hobtained : obtained v = true
    · have hread := (h v ((hmem v).2 (hkeys ▸ List.mem_cons_self)) hobtained).1
      rw [if_pos hread, if_pos hobtained, if_pos hobtained]
      rfl
    · rw [if_neg hobtained, if_neg hobtained]
      split_ifs <;> rfl

/-- A report reaches every user exactly if no service but the least user's is obtained, and the clock can
be read if that one is. -/
theorem reachesEveryUser_iff (tz : TimeZone) (core : BundleActiveCore) (event : BundleActiveEvent)
    (obtained : ℤ → Bool) (clock : Clock) :
    ReachesEveryUser tz core event obtained clock ↔ OnlyLeastUser core obtained clock := by
  have hsorted := keys_sorted core.userStatServices
  have hmem : ∀ u, u ∈ core.userStatServices ↔ u ∈ core.userStatServices.keys := fun u =>
    Std.TreeMap.mem_keys.symm
  refine ⟨fun h u hu hobtained => ?_, fun h => ?_⟩
  · have hin : u ∈ core.userStatServices.keys.filter obtained :=
      List.mem_filter.2 ⟨(hmem u).1 hu, hobtained⟩
    rw [← h.once.mem_iff, delivered_eq] at hin
    split_ifs at hin with hread
    · refine ⟨hread, fun u' hu' => ?_⟩
      cases hkeys : core.userStatServices.keys with
      | nil =>
        rw [hkeys] at hin
        cases hin
      | cons v rest =>
        rw [hkeys] at hin hsorted
        obtain rfl : u = v := by
          rw [List.head?_cons, Option.filter_some] at hin
          split_ifs at hin
          · exact List.mem_singleton.1 hin
          · cases hin
        rw [hmem, hkeys, List.mem_cons] at hu'
        exact hu'.elim (fun heq => heq.ge) fun hrest =>
          ((List.pairwise_cons.1 hsorted).1 u' hrest).le
    · cases hin
  · have hdelivered := h.delivered tz event
    refine ⟨?_, fun call hcall => ?_, fun hevent u hu hobtained => ?_⟩
    · rw [hdelivered, List.map_map]
      exact (List.map_id _).symm ▸ .refl _
    · rw [hdelivered] at hcall
      obtain ⟨u, -, rfl⟩ := List.mem_map.1 hcall
      rfl
    · refine UserBookedUpTo.restoreAllData (userBookedUpTo_of_delivered hevent ?_ ?_)
      · rw [hdelivered]
        exact List.ne_nil_of_mem (List.mem_map_of_mem (List.mem_filter.2 ⟨(hmem u).1 hu, hobtained⟩))
      · cases hkeys : core.userStatServices.keys with
        | nil =>
          rw [hmem, hkeys] at hu
          cases hu
        | cons v rest =>
          have hle := (h u hu hobtained).2 v ((hmem v).2 (hkeys ▸ List.mem_cons_self))
          rw [hkeys] at hsorted
          rw [hmem, hkeys, List.mem_cons] at hu
          refine congrArg some (hu.resolve_right fun hrest => ?_).symm
          exact absurd ((List.pairwise_cons.1 hsorted).1 u hrest) (not_lt.2 hle)

def foregroundOf (bundleName : String) (timeStamp uid : ℤ) : BundleActiveEvent :=
  { bundleName := bundleName, abilityId := "1", eventId := .abilityForeground
    timeStamp := timeStamp, uid := uid }

def twoUsers : BundleActiveCore :=
  ((init { systemTime := 1709280000000, realTime := 1000 } {} false).apply utc
    (.report (foregroundOf "com.example.mail" 2000 20010001) 100 false
      { systemTime := 1709280001000, realTime := 2000 })).apply utc
    (.report (foregroundOf "com.example.maps" 3000 20210001) 101 false
      { systemTime := 1709280002000, realTime := 3000 })

theorem run_twoUsers : Run utc (fun _ _ => True) twoUsers :=
  .step _ (.step _ (.init _ _ _) trivial trivial) trivial trivial

/-- The shutdown reaches user 100 and not user 101. -/
theorem reachesEveryUser_twoUsers : Run utc (fun _ _ => True) twoUsers ∧
    ¬ ReachesEveryUser utc twoUsers (shutdownEvent 9000) (fun _ => true)
      { systemTime := 1709280008000, realTime := 9000 } := by
  refine ⟨run_twoUsers, fun h => ?_⟩
  have honce := h.once
  have hkeys : twoUsers.userStatServices.keys = [100, 101] := by decide +kernel
  have hread : ClockReadable { systemTime := 1709280008000, realTime := 9000 } := by decide
  rw [delivered_eq, if_pos hread, hkeys] at honce
  exact absurd honce.length_eq (by decide)

end BundleActiveCore
end DeviceUsageStats
