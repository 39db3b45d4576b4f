import DeviceUsageStats.Lib.Timeline
import DeviceUsageStats.Sanity.PackageStats

/-! The counters of a bundle measure its time line. Over any sequence of `Update` calls the booked
time plus the open part is the Lebesgue measure of the instants at which some ability is in front
(some task is running), so a tick leaves exactly that measure in the total. -/

namespace DeviceUsageStats

structure UpdateCall where
  longTimeTaskName : String := ""
  timeStamp : ℤ
  eventId : EventId
  abilityId : String := ""

namespace BundleActivePackageStats

def updateAll (s : BundleActivePackageStats) (calls : List UpdateCall) :
    BundleActivePackageStats :=
  calls.foldl (fun s c => s.update c.longTimeTaskName c.timeStamp c.eventId c.abilityId) s

/-- The latest event of an ability among the calls. -/
def lastAbilityEvent (calls : List UpdateCall) (abilityId : String) : Option EventId :=
  (calls.filter fun c => c.eventId.isAppStateEvent ∧ c.abilityId = abilityId).getLast?.map
    UpdateCall.eventId

def lastTaskEvent (calls : List UpdateCall) (taskName : String) : Option EventId :=
  (calls.filter fun c => c.eventId.isTaskEvent ∧ c.longTimeTaskName = taskName).getLast?.map
    UpdateCall.eventId

def SomeAbilityInFront (calls : List UpdateCall) : Prop :=
  ∃ a, lastAbilityEvent calls a = some .abilityForeground

def SomeTaskRunning (calls : List UpdateCall) : Prop :=
  ∃ n, lastTaskEvent calls n = some .longTimeTaskStartted

theorem lastAbilityEvent_snoc (calls : List UpdateCall) (c : UpdateCall) (a : String) :
    lastAbilityEvent (calls ++ [c]) a =
      if c.eventId.isAppStateEvent = true ∧ a = c.abilityId then some c.eventId
      else lastAbilityEvent calls a := by
  unfold lastAbilityEvent
  by_cases h : c.eventId.isAppStateEvent = true ∧ a = c.abilityId
  · rw [if_pos h, List.filter_append]
    simp [h.1, h.2]
  · rw [if_neg h, List.filter_append]
    have h' : ¬ (c.eventId.isAppStateEvent = true ∧ c.abilityId = a) :=
      fun hc => h ⟨hc.1, hc.2.symm⟩
    simp only [List.filter_singleton]
    simp [h']

theorem lastTaskEvent_snoc (calls : List UpdateCall) (c : UpdateCall) (n : String) :
    lastTaskEvent (calls ++ [c]) n =
      if c.eventId.isTaskEvent = true ∧ n = c.longTimeTaskName then some c.eventId
      else lastTaskEvent calls n := by
  unfold lastTaskEvent
  by_cases h : c.eventId.isTaskEvent = true ∧ n = c.longTimeTaskName
  · rw [if_pos h, List.filter_append]
    simp [h.1, h.2]
  · rw [if_neg h, List.filter_append]
    have h' : ¬ (c.eventId.isTaskEvent = true ∧ c.longTimeTaskName = n) :=
      fun hc => h ⟨hc.1, hc.2.symm⟩
    simp only [List.filter_singleton]
    simp [h']

theorem not_someAbilityInFront_nil : ¬ SomeAbilityInFront [] := by
  simp [SomeAbilityInFront, lastAbilityEvent]

theorem not_someTaskRunning_nil : ¬ SomeTaskRunning [] := by
  simp [SomeTaskRunning, lastTaskEvent]

/-- The state after `calls`, the last of them at `now`: the maps hold the latest events, and the
time booked and open is the measure of the time line. -/
structure Metered (calls : List UpdateCall) (now : ℤ) (s : BundleActivePackageStats) : Prop where
  abilities : ∀ a : String, s.abilities[a]? = some .abilityForeground ↔
    lastAbilityEvent calls a = some .abilityForeground
  tasks : ∀ n : String, s.longTimeTasks[n]?.isSome ↔
    lastTaskEvent calls n = some .longTimeTaskStartted
  started : s.TasksStarted
  stamps : s.StampsBefore now
  past : ∀ c ∈ calls, c.timeStamp ≤ now
  front : (s.frontTimeAt now : ℝ) =
    Timeline.activeLength UpdateCall.timeStamp SomeAbilityInFront calls now
  task : (s.taskTimeAt now : ℝ) =
    Timeline.activeLength UpdateCall.timeStamp SomeTaskRunning calls now

variable {calls : List UpdateCall} {now : ℤ} {s : BundleActivePackageStats} {c : UpdateCall}

theorem Metered.hasFrontAbility_iff (h : Metered calls now s) :
    s.hasFrontAbility = true ↔ SomeAbilityInFront calls := by
  rw [BundleActivePackageStats.hasFrontAbility_iff]
  exact exists_congr h.abilities

theorem Metered.anyLongTimeTaskStarted_iff (h : Metered calls now s) :
    s.anyLongTimeTaskStarted = true ↔ SomeTaskRunning calls := by
  rw [BundleActivePackageStats.anyLongTimeTaskStarted_iff]
  exact exists_congr h.tasks

theorem metered_init (now : ℤ) (h : 0 ≤ now) : Metered [] now {} where
  abilities := by simp [lastAbilityEvent]
  tasks := by simp [lastTaskEvent]
  started := by simp [TasksStarted]
  stamps := ⟨by show -1 ≤ now; omega, by show -1 ≤ now; omega⟩
  past := by simp
  front := by
    rw [Timeline.activeLength_nil not_someAbilityInFront_nil]
    simp [frontTimeAt, hasFrontAbility]
  task := by
    rw [Timeline.activeLength_nil not_someTaskRunning_nil]
    simp [taskTimeAt, anyLongTimeTaskStarted]

theorem frontTimeAt_later (s : BundleActivePackageStats) (now t : ℤ) :
    s.frontTimeAt t = s.frontTimeAt now + if s.hasFrontAbility then t - now else 0 := by
  unfold frontTimeAt
  split_ifs <;> ring

theorem taskTimeAt_later (s : BundleActivePackageStats) (now t : ℤ) :
    s.taskTimeAt t = s.taskTimeAt now + if s.anyLongTimeTaskStarted then t - now else 0 := by
  unfold taskTimeAt
  split_ifs <;> ring

/-- One `Update` at a stamp not before the last keeps the counters on the time line. -/
theorem Metered.step (h : Metered calls now s) (hc : now ≤ c.timeStamp) :
    Metered (calls ++ [c]) c.timeStamp
      (s.update c.longTimeTaskName c.timeStamp c.eventId c.abilityId) where
  abilities a := by
    rw [getElem?_abilities_update, lastAbilityEvent_snoc]
    split_ifs with hev hstop
    · simp [hstop]
    · rfl
    · exact h.abilities a
  tasks n := by
    rw [getElem?_longTimeTasks_update, lastTaskEvent_snoc]
    split_ifs with hev hend
    · simp [hend]
    · rcases isTaskEvent_iff.1 hev.1 with hs | hs
      · simp [hs]
      · exact absurd hs hend
    · exact h.tasks n
  started := h.started.update
  stamps := (h.stamps.mono hc).update h.started
  past := by
    intro d hd
    rcases List.mem_append.1 hd with hd | hd
    · exact (h.past d hd).trans hc
    · exact (List.mem_singleton.1 hd).symm ▸ le_rfl
  front := by
    classical
    rw [frontTimeAt_update (h.stamps.mono hc), frontTimeAt_later s now,
      Timeline.activeLength_step not_someAbilityInFront_nil hc h.past, Int.cast_add, h.front]
    congr 1
    rw [if_congr h.hasFrontAbility_iff rfl rfl]
    split_ifs <;> simp
  task := by
    classical
    rw [taskTimeAt_update h.started (h.stamps.mono hc), taskTimeAt_later s now,
      Timeline.activeLength_step not_someTaskRunning_nil hc h.past, Int.cast_add, h.task]
    congr 1
    rw [if_congr h.anyLongTimeTaskStarted_iff rfl rfl]
    split_ifs <;> simp

theorem updateAll_snoc (s : BundleActivePackageStats) (calls : List UpdateCall) (c : UpdateCall) :
    s.updateAll (calls ++ [c]) =
      (s.updateAll calls).update c.longTimeTaskName c.timeStamp c.eventId c.abilityId := by
  simp [updateAll]

/-- The run lemma: after any calls in time order the counters are on the time line. -/
theorem metered_updateAll (calls : List UpdateCall)
    (hpos : ∀ c ∈ calls, 0 < c.timeStamp)
    (hsorted : calls.Pairwise fun c d => c.timeStamp ≤ d.timeStamp) :
    Metered calls ((calls.getLast?.map UpdateCall.timeStamp).getD 0)
      (BundleActivePackageStats.updateAll {} calls) := by
  induction calls using List.reverseRecOn with
  | nil => exact metered_init 0 le_rfl
  | append_singleton calls c ih =>
    obtain ⟨hcalls, -, hlast⟩ := List.pairwise_append.1 hsorted
    have ih := ih (fun d hd => hpos d (List.mem_append_left _ hd)) hcalls
    rw [updateAll_snoc]
    simp only [List.getLast?_append, List.getLast?_singleton, Option.some_or, Option.map_some,
      Option.getD_some]
    refine ih.step ?_
    rcases calls.eq_nil_or_concat with rfl | ⟨init, d, rfl⟩
    · simpa using (hpos c (by simp)).le
    · simpa using hlast d (by simp) c (by simp)

/-- Over every sequence of updates in time order that ends with a tick, the totals are the lengths
of the time some ability was in front and of the time some task was running. -/
theorem totals_eq_time_line (calls : List UpdateCall) (last : UpdateCall)
    (hpos : ∀ c ∈ calls ++ [last], 0 < c.timeStamp)
    (hsorted : (calls ++ [last]).Pairwise fun c d => c.timeStamp ≤ d.timeStamp)
    (htick : last.eventId.isTick = true) :
    ((updateAll {} (calls ++ [last])).totalInFrontTime : ℝ) =
        Timeline.activeLength UpdateCall.timeStamp SomeAbilityInFront (calls ++ [last])
          last.timeStamp ∧
      ((updateAll {} (calls ++ [last])).totalContiniousTaskUsedTime : ℝ) =
        Timeline.activeLength UpdateCall.timeStamp SomeTaskRunning (calls ++ [last])
          last.timeStamp := by
  have hprefix := metered_updateAll calls (fun c hc => hpos c (List.mem_append_left _ hc))
    (List.pairwise_append.1 hsorted).1
  have hrun := metered_updateAll (calls ++ [last]) hpos hsorted
  have hlast : (updateAll {} calls).StampsBefore last.timeStamp := by
    refine hprefix.stamps.mono ?_
    rcases calls.eq_nil_or_concat with rfl | ⟨init, d, rfl⟩
    · simpa using (hpos last (by simp)).le
    · simpa using (List.pairwise_append.1 hsorted).2.2 d (by simp) last (by simp)
  simp only [List.getLast?_append, List.getLast?_singleton, Option.some_or, Option.map_some,
    Option.getD_some] at hrun
  refine ⟨?_, ?_⟩
  · rw [← hrun.front, updateAll_snoc, totalInFrontTime_update_tick htick hlast,
      frontTimeAt_update hlast]
  · rw [← hrun.task, updateAll_snoc, totalContiniousTaskUsedTime_update_tick htick hlast,
      taskTimeAt_update hprefix.started hlast]

/-- Two overlapping abilities and two overlapping tasks with a tick in between, closed at 20. -/
def overlappingCalls : List UpdateCall :=
  [{ timeStamp := 1, eventId := .abilityForeground, abilityId := "a" },
   { timeStamp := 3, eventId := .abilityForeground, abilityId := "b" },
   { timeStamp := 4, eventId := .longTimeTaskStartted, longTimeTaskName := "music" },
   { timeStamp := 5, eventId := .abilityBackground, abilityId := "a" },
   { timeStamp := 6, eventId := .longTimeTaskStartted, longTimeTaskName := "download" },
   { timeStamp := 8, eventId := .flush },
   { timeStamp := 9, eventId := .abilityStop, abilityId := "b" },
   { timeStamp := 15, eventId := .longTimeTaskEnded, longTimeTaskName := "music" }]

theorem totals_eq_time_line_overlapping :
    Timeline.activeLength UpdateCall.timeStamp SomeAbilityInFront
        (overlappingCalls ++ [{ timeStamp := 20, eventId := .endOfTheDay }]) 20 = 8 ∧
      Timeline.activeLength UpdateCall.timeStamp SomeTaskRunning
        (overlappingCalls ++ [{ timeStamp := 20, eventId := .endOfTheDay }]) 20 = 16 := by
  obtain ⟨hfront, htask⟩ := totals_eq_time_line overlappingCalls
    { timeStamp := 20, eventId := .endOfTheDay } (by decide) (by decide) (by decide)
  have hf : (updateAll {} (overlappingCalls ++
      [{ timeStamp := 20, eventId := .endOfTheDay }])).totalInFrontTime = 8 := by decide +kernel
  have ht : (updateAll {} (overlappingCalls ++
      [{ timeStamp := 20, eventId := .endOfTheDay }])).totalContiniousTaskUsedTime = 16 := by
    decide +kernel
  rw [hf] at hfront
  rw [ht] at htask
  exact ⟨by rw [← hfront]; norm_num, by rw [← htask]; norm_num⟩

end BundleActivePackageStats
end DeviceUsageStats
