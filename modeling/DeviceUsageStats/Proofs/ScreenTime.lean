import DeviceUsageStats.Lib.Timeline
import DeviceUsageStats.Sanity.HistoryRun

/-! The screen-on time. A call that finds the screen on, or switches it on, keeps the accumulated time on
the time line of the calls. A shutdown that finds the screen off adds the time since the screen was last
switched on once more. -/

namespace DeviceUsageStats

inductive ScreenCallKind where
  | screenOn
  | screenOff
  | shutDown
  deriving DecidableEq, Repr

/-- A call of `UpdateBootBasedAndScreenTime`: a change of the screen, or the shutdown of a user. -/
structure ScreenCall where
  kind : ScreenCallKind
  bootBasedTimeStamp : ℤ
  deriving Repr

namespace HistoryState

def screenCall (s : HistoryState) (call : ScreenCall) : HistoryState :=
  s.updateBootBasedAndScreenTime (call.kind = .screenOn) call.bootBasedTimeStamp
    (call.kind = .shutDown)

def ScreenIsOn (calls : List ScreenCall) : Prop :=
  calls.getLast?.map ScreenCall.kind = some .screenOn

/-- A shutdown finds the screen on, or no time since it was last switched on. -/
def CountsOnce (s : HistoryState) (call : ScreenCall) : Prop :=
  call.kind = .shutDown → s.isScreenOn = true ∨ s.screenOnTimeStamp = call.bootBasedTimeStamp

/-- The calls that a history object has seen until now, and its state. -/
structure ScreenHistory where
  calls : List ScreenCall := []
  now : ℤ
  state : HistoryState

def ScreenHistory.start (tables : HistoryTables) (bootBasedTimeStamp : ℤ) : ScreenHistory :=
  { now := bootBasedTimeStamp, state := .new tables bootBasedTimeStamp }

def ScreenHistory.call (p : ScreenHistory) (call : ScreenCall) : ScreenHistory :=
  { calls := p.calls ++ [call], now := call.bootBasedTimeStamp, state := p.state.screenCall call }

/-- Time goes by, or a call is made. -/
inductive ScreenStep (Allowed : HistoryState → ScreenCall → Prop) :
    ScreenHistory → ScreenHistory → Prop where
  | wait (p : ScreenHistory) (t : ℤ) (later : p.now ≤ t) : ScreenStep Allowed p { p with now := t }
  | call (p : ScreenHistory) (call : ScreenCall) (later : p.now ≤ call.bootBasedTimeStamp)
    (allowed : Allowed p.state call) : ScreenStep Allowed p (p.call call)

variable {s : HistoryState} {call : ScreenCall} {tables : HistoryTables} {t₀ : ℤ}
  {p p' : ScreenHistory}

/-! ### One call -/

theorem isScreenOn_screenCall (s : HistoryState) (call : ScreenCall) :
    (s.screenCall call).isScreenOn = decide (call.kind = .screenOn) := by
  obtain ⟨name, hobject⟩ := updateBootBasedAndScreenTime_object s (call.kind = .screenOn)
    call.bootBasedTimeStamp (call.kind = .shutDown)
  unfold screenCall
  rw [hobject]
  unfold BundleActiveUserHistory.updatedTimes
  split_ifs with hsame hon
  · exact hsame.1
  · rfl
  · rfl

theorem getScreenOnTimeStamp_screenCall (once : CountsOnce s call) :
    (s.screenCall call).getScreenOnTimeStamp call.bootBasedTimeStamp =
      s.getScreenOnTimeStamp call.bootBasedTimeStamp := by
  obtain ⟨name, hobject⟩ := updateBootBasedAndScreenTime_object s (call.kind = .screenOn)
    call.bootBasedTimeStamp (call.kind = .shutDown)
  unfold screenCall
  rw [hobject]
  unfold BundleActiveUserHistory.updatedTimes BundleActiveUserHistory.getScreenOnTimeStamp
  by_cases hon : call.kind = .screenOn
  · have hshut : call.kind ≠ .shutDown := by rw [hon]; decide
    cases hold : s.isScreenOn <;> simp [hon, hold]
  · by_cases hshut : call.kind = .shutDown
    · rcases once hshut with hold | hstamp
      · simp [hshut, hold]
      · cases s.isScreenOn <;> simp [hshut, hstamp]
    · cases hold : s.isScreenOn <;> simp [hon, hshut, hold]

theorem getBootBasedTimeStamp_screenCall (s : HistoryState) (call : ScreenCall) (t : ℤ) :
    (s.screenCall call).getBootBasedTimeStamp t = s.getBootBasedTimeStamp t :=
  getBootBasedTimeStamp_updateBootBasedAndScreenTime s _ _ _ t

/-! ### Runs -/

theorem not_screenIsOn_nil : ¬ ScreenIsOn [] := by simp [ScreenIsOn]

/-- The state after the calls: the screen is as the latest call left it, and the accumulated time is the
time that the screen was on. -/
structure OnTime (tables : HistoryTables) (p : ScreenHistory) : Prop where
  screen : p.state.isScreenOn = true ↔ ScreenIsOn p.calls
  past : ∀ call ∈ p.calls, call.bootBasedTimeStamp ≤ p.now
  time : (p.state.getScreenOnTimeStamp p.now : ℝ) = (getDurationData tables).screenOnDuration +
    Timeline.activeLength ScreenCall.bootBasedTimeStamp ScreenIsOn p.calls p.now

theorem onTime_start (tables : HistoryTables) (t : ℤ) : OnTime tables (.start tables t) where
  screen := by simp [ScreenHistory.start, new, ScreenIsOn]
  past := by simp [ScreenHistory.start]
  time := by
    have hempty : (ScreenHistory.start tables t).calls = [] := rfl
    rw [hempty, Timeline.activeLength_nil not_screenIsOn_nil]
    simp [ScreenHistory.start, new, BundleActiveUserHistory.getScreenOnTimeStamp]

theorem getScreenOnTimeStamp_later (h : BundleActiveUserHistory) (now t : ℤ) :
    h.getScreenOnTimeStamp t =
      h.getScreenOnTimeStamp now + if h.isScreenOn then t - now else 0 := by
  unfold BundleActiveUserHistory.getScreenOnTimeStamp
  split_ifs <;> ring

theorem OnTime.step (h : OnTime tables p) (step : ScreenStep CountsOnce p p') :
    OnTime tables p' := by
  classical
  cases step with
  | wait t later =>
    refine ⟨h.screen, fun call hcall => (h.past call hcall).trans later, ?_⟩
    rw [getScreenOnTimeStamp_later _ p.now, Int.cast_add, h.time,
      Timeline.activeLength_extend not_screenIsOn_nil later h.past, add_assoc]
    congr 2
    rw [if_congr h.screen rfl rfl]
    split_ifs <;> simp
  | call call later once =>
    refine ⟨?_, fun call' hcall => ?_, ?_⟩
    · rw [ScreenHistory.call, isScreenOn_screenCall, ScreenIsOn]
      simp
    · rcases List.mem_append.1 hcall with hcall | hcall
      · exact (h.past call' hcall).trans later
      · exact (List.mem_singleton.1 hcall).symm ▸ le_rfl
    · rw [ScreenHistory.call, getScreenOnTimeStamp_screenCall once,
        getScreenOnTimeStamp_later _ p.now, Int.cast_add, h.time,
        Timeline.activeLength_step not_screenIsOn_nil later h.past, add_assoc]
      congr 2
      rw [if_congr h.screen rfl rfl]
      split_ifs <;> simp

theorem onTime_steps (run : Relation.ReflTransGen (ScreenStep CountsOnce) (.start tables t₀) p) :
    OnTime tables p := by
  induction run with
  | refl => exact onTime_start tables t₀
  | tail _ step ih => exact ih.step step

theorem grows_of_step (step : ScreenStep CountsOnce p p') :
    p.state.getScreenOnTimeStamp p.now ≤ p'.state.getScreenOnTimeStamp p'.now ∧
      p'.state.getScreenOnTimeStamp p'.now - p.state.getScreenOnTimeStamp p.now ≤
        p'.state.getBootBasedTimeStamp p'.now - p.state.getBootBasedTimeStamp p.now := by
  have hclock : ∀ (h : BundleActiveUserHistory) (now t : ℤ), now ≤ t →
      h.getScreenOnTimeStamp now ≤ h.getScreenOnTimeStamp t ∧
        h.getScreenOnTimeStamp t - h.getScreenOnTimeStamp now ≤
          h.getBootBasedTimeStamp t - h.getBootBasedTimeStamp now := by
    intro h now t hle
    rw [getScreenOnTimeStamp_later h now t]
    unfold BundleActiveUserHistory.getBootBasedTimeStamp
    split_ifs <;> omega
  cases step with
  | wait t later => exact hclock _ _ _ later
  | call call later once =>
    rw [ScreenHistory.call, getScreenOnTimeStamp_screenCall once, getBootBasedTimeStamp_screenCall]
    exact hclock _ _ _ later

theorem grows_of_steps (steps : Relation.ReflTransGen (ScreenStep CountsOnce) p p') :
    p.state.getScreenOnTimeStamp p.now ≤ p'.state.getScreenOnTimeStamp p'.now ∧
      p'.state.getScreenOnTimeStamp p'.now - p.state.getScreenOnTimeStamp p.now ≤
        p'.state.getBootBasedTimeStamp p'.now - p.state.getBootBasedTimeStamp p.now := by
  induction steps with
  | refl => exact ⟨le_rfl, by omega⟩
  | tail _ step ih =>
    obtain ⟨hle, hgrow⟩ := grows_of_step step
    exact ⟨ih.1.trans hle, by omega⟩

/-- The screen-on time is the time that the screen was on, it never goes back, and never grows faster
than the boot-based time. -/
theorem screenTime_run
    (run : Relation.ReflTransGen (ScreenStep CountsOnce) (.start tables t₀) p)
    (later : Relation.ReflTransGen (ScreenStep CountsOnce) p p') :
    (p.state.getScreenOnTimeStamp p.now : ℝ) = (getDurationData tables).screenOnDuration +
        Timeline.activeLength ScreenCall.bootBasedTimeStamp ScreenIsOn p.calls p.now ∧
      (p.state.isScreenOn = false →
        (p.state.screenOnDuration : ℝ) = (getDurationData tables).screenOnDuration +
          Timeline.activeLength ScreenCall.bootBasedTimeStamp ScreenIsOn p.calls p.now) ∧
      p.state.getScreenOnTimeStamp p.now ≤ p'.state.getScreenOnTimeStamp p'.now ∧
      p'.state.getScreenOnTimeStamp p'.now - p.state.getScreenOnTimeStamp p.now ≤
        p'.state.getBootBasedTimeStamp p'.now - p.state.getBootBasedTimeStamp p.now := by
  have hrun := onTime_steps run
  refine ⟨hrun.time, fun hoff => ?_, grows_of_steps later⟩
  rw [← hrun.time, BundleActiveUserHistory.getScreenOnTimeStamp, hoff]
  simp

/-- The screen is on from 10, and a user shuts down at 20. -/
def screenOnAt10 : ScreenHistory := (ScreenHistory.start {} 0).call ⟨.screenOn, 10⟩

def shutDownAt20 : ScreenHistory := screenOnAt10.call ⟨.shutDown, 20⟩

/-- One shutdown counts the ten milliseconds once. -/
theorem screenTime_shutDownAt20 :
    (shutDownAt20.state.screenOnDuration : ℝ) =
      Timeline.activeLength ScreenCall.bootBasedTimeStamp ScreenIsOn
        [⟨.screenOn, 10⟩, ⟨.shutDown, 20⟩] 20 := by
  have hon : ScreenStep CountsOnce (.start {} 0) screenOnAt10 :=
    .call _ ⟨.screenOn, 10⟩ (by decide) fun h => by cases h
  have hshut : ScreenStep CountsOnce screenOnAt10 shutDownAt20 :=
    .call _ ⟨.shutDown, 20⟩ (by decide) fun _ => .inl (by decide)
  have htime : (shutDownAt20.state.screenOnDuration : ℝ) = ((0 : ℤ) : ℝ) +
      Timeline.activeLength ScreenCall.bootBasedTimeStamp ScreenIsOn
        [⟨.screenOn, 10⟩, ⟨.shutDown, 20⟩] 20 :=
    (screenTime_run (.tail (.single hon) hshut) .refl).2.1 (by decide)
  rw [htime, Int.cast_zero, zero_add]

/-- The shutdown of a second user at the same time counts them once more. -/
theorem not_screenTime_twoUsers :
    Relation.ReflTransGen (ScreenStep fun _ _ => True) (.start {} 0)
        (shutDownAt20.call ⟨.shutDown, 20⟩) ∧
      ¬ ((shutDownAt20.call ⟨.shutDown, 20⟩).state.getScreenOnTimeStamp 20 -
          screenOnAt10.state.getScreenOnTimeStamp 10 ≤
        (shutDownAt20.call ⟨.shutDown, 20⟩).state.getBootBasedTimeStamp 20 -
          screenOnAt10.state.getBootBasedTimeStamp 10) := by
  have hon : ScreenStep (fun _ _ => True) (.start {} 0) screenOnAt10 :=
    .call _ ⟨.screenOn, 10⟩ (by decide) trivial
  have hshut : ScreenStep (fun _ _ => True) screenOnAt10 shutDownAt20 :=
    .call _ ⟨.shutDown, 20⟩ (by decide) trivial
  have hagain : ScreenStep (fun _ _ => True) shutDownAt20 (shutDownAt20.call ⟨.shutDown, 20⟩) :=
    .call _ ⟨.shutDown, 20⟩ (by decide) trivial
  exact ⟨.tail (.tail (.single hon) hshut) hagain, by decide⟩

end HistoryState
end DeviceUsageStats
