import DeviceUsageStats.Spec.CheckBundle

/-! The map holds the one waiting task of each key as long as no message is sent for a key whose task is
running: the task that runs would erase the entry of the new one. -/

namespace DeviceUsageStats
namespace CheckBundleTimers

variable {h : CheckBundleTimers} {task : DelayedTask CheckBundleTask}

/-- Each key has at most one timer, which the map knows and the next message for the key cancels. -/
structure OneTimer (h : CheckBundleTimers) : Prop where
  unique : ∀ task ∈ h.ffrtQueue.waiting, ∀ other ∈ h.ffrtQueue.waiting,
    task.payload.msgKey = other.payload.msgKey → task = other
  known : ∀ task ∈ h.ffrtQueue.waiting,
    h.checkBundleTaskMap[task.payload.msgKey]? = some task.handle
  cancelled : ∀ task ∈ h.ffrtQueue.waiting, ∀ eventId obj delayTime,
    getMsgKey eventId obj delayTime = task.payload.msgKey →
      task ∉ (h.sendCheckBundleMsg eventId obj delayTime).ffrtQueue.waiting

/-- No message is sent for the key of the task that runs. -/
def KeyIdle (h : CheckBundleTimers) : CheckBundleOp → Prop
  | .send eventId obj delayTime => ∀ task, h.executing = some task →
      task.payload.msgKey ≠ getMsgKey eventId obj delayTime
  | _ => True

/-- The map holds the handles of the tasks that wait and of the one that runs. -/
structure Inv (h : CheckBundleTimers) : Prop where
  known : ∀ task ∈ h.ffrtQueue.waiting,
    h.checkBundleTaskMap[task.payload.msgKey]? = some task.handle
  posted : ∀ (key : String) (handle : ℕ), h.checkBundleTaskMap[key]? = some handle →
    (∃ task ∈ h.ffrtQueue.waiting, task.handle = handle ∧ task.payload.msgKey = key) ∨
      ∃ task, h.executing = some task ∧ task.handle = handle ∧ task.payload.msgKey = key
  running : ∀ task, h.executing = some task → task.handle < h.ffrtQueue.nextHandle ∧
    ∀ other ∈ h.ffrtQueue.waiting,
      other.handle ≠ task.handle ∧ other.payload.msgKey ≠ task.payload.msgKey
  sendable : ∀ task ∈ h.ffrtQueue.waiting, h.isInited = true ∧ task.payload.msgKey ≠ ""

theorem Inv.unique (inv : Inv h) {other : DelayedTask CheckBundleTask}
    (htask : task ∈ h.ffrtQueue.waiting) (hother : other ∈ h.ffrtQueue.waiting)
    (hkey : task.payload.msgKey = other.payload.msgKey) : task = other := by
  refine TaskPool.eq_of_handle htask hother (Option.some.inj ?_)
  rw [← inv.known task htask, ← inv.known other hother, hkey]

section Send

variable {eventId delayTime : ℤ} {obj : Option BundleActiveGroupHandlerObject}

def newTask (h : CheckBundleTimers) (eventId : ℤ) (obj : Option BundleActiveGroupHandlerObject)
    (delayTime : ℤ) : DelayedTask CheckBundleTask :=
  { handle := h.ffrtQueue.nextHandle
    payload := { eventId := eventId, handlerobj := obj, msgKey := getMsgKey eventId obj delayTime }
    dueTime := h.ffrtQueue.now + getFFRTDelayTime delayTime }

theorem removeCheckBundleMsg_spec (inv : Inv h) (hinit : h.isInited = true) (key : String) :
    (h.removeCheckBundleMsg key).executing = h.executing ∧
      (h.removeCheckBundleMsg key).isInited = h.isInited ∧
      (h.removeCheckBundleMsg key).ffrtQueue.nextHandle = h.ffrtQueue.nextHandle ∧
      (h.removeCheckBundleMsg key).ffrtQueue.now = h.ffrtQueue.now ∧
      (∀ k : String, k ≠ key → (h.removeCheckBundleMsg key).checkBundleTaskMap[k]? =
        h.checkBundleTaskMap[k]?) ∧
      ∀ task, task ∈ (h.removeCheckBundleMsg key).ffrtQueue.waiting ↔
        task ∈ h.ffrtQueue.waiting ∧ task.payload.msgKey ≠ key := by
  unfold removeCheckBundleMsg
  rw [if_neg (by rw [hinit]; decide)]
  cases hmap : h.checkBundleTaskMap[key]? with
  | none =>
    refine ⟨rfl, rfl, rfl, rfl, fun _ _ => rfl, fun task => ⟨fun htask => ⟨htask, fun hkey => ?_⟩,
      And.left⟩⟩
    have hknown := inv.known task htask
    rw [hkey, hmap] at hknown
    cases hknown
  | some handle =>
    refine ⟨rfl, rfl, rfl, rfl, fun k hk => ?_, fun task => ?_⟩
    · rw [Std.TreeMap.getElem?_erase, if_neg fun heq => hk (Std.LawfulEqCmp.eq_of_compare heq).symm]
    -- the handle is the one of the waiting task of the key
    · refine TaskPool.mem_cancel.trans (and_congr_right fun htask => not_congr ?_)
      rw [List.mem_singleton]
      refine ⟨fun heq => ?_, fun hkey => ?_⟩
      · rcases inv.posted key handle hmap with ⟨other, hother, hhandle, hkey⟩ | ⟨other, hex, hhandle, -⟩
        · rwa [TaskPool.eq_of_handle htask hother (heq.trans hhandle.symm)]
        · exact absurd (heq.trans hhandle.symm) ((inv.running other hex).2 task htask).1
      · have hknown := inv.known task htask
        rw [hkey, hmap] at hknown
        exact (Option.some.inj hknown).symm

theorem sendCheckBundleMsg_spec (inv : Inv h) (hinit : h.isInited = true)
    (hkey : getMsgKey eventId obj delayTime ≠ "") :
    (h.sendCheckBundleMsg eventId obj delayTime).executing = h.executing ∧
      (h.sendCheckBundleMsg eventId obj delayTime).isInited = h.isInited ∧
      (h.sendCheckBundleMsg eventId obj delayTime).ffrtQueue.nextHandle =
        h.ffrtQueue.nextHandle + 1 ∧
      (∀ k : String, (h.sendCheckBundleMsg eventId obj delayTime).checkBundleTaskMap[k]? =
        if k = getMsgKey eventId obj delayTime then some h.ffrtQueue.nextHandle
        else h.checkBundleTaskMap[k]?) ∧
      ∀ task, task ∈ (h.sendCheckBundleMsg eventId obj delayTime).ffrtQueue.waiting ↔
        task ∈ h.ffrtQueue.waiting ∧ task.payload.msgKey ≠ getMsgKey eventId obj delayTime ∨
          task = h.newTask eventId obj delayTime := by
  set key := getMsgKey eventId obj delayTime with hkeyDef
  have hremove : (if h.checkBundleTaskMap.contains key = true then h.removeCheckBundleMsg key
      else h) = h.removeCheckBundleMsg key := by
    split_ifs with hmem
    · rfl
    · unfold removeCheckBundleMsg
      rw [← Std.TreeMap.isSome_getElem?_eq_contains, Bool.not_eq_true,
        Option.isSome_eq_false_iff, Option.isNone_iff_eq_none] at hmem
      rw [hmem]
      split_ifs <;> rfl
  obtain ⟨hexecuting, hinited, hnext, hnow, hmap, hwaiting⟩ := removeCheckBundleMsg_spec inv hinit key
  unfold sendCheckBundleMsg
  simp only [← hkeyDef, hremove]
  rw [if_neg (not_or.2 ⟨by rw [hinit]; decide, hkey⟩)]
  refine ⟨hexecuting, hinited, congrArg (· + 1) hnext, fun k => ?_, fun task => ?_⟩
  · simp only [Std.TreeMap.getElem?_insert, hnext]
    by_cases hk : k = key
    · rw [if_pos hk, if_pos (hk ▸ Std.ReflCmp.compare_self)]
    · rw [if_neg hk, if_neg fun heq => hk (Std.LawfulEqCmp.eq_of_compare heq).symm, hmap k hk]
  · refine TaskPool.mem_submit.trans (or_congr (hwaiting task) ?_)
    rw [hnext, hnow]
    rfl

theorem Inv.sendCheckBundleMsg (inv : Inv h)
    (idle : ∀ task, h.executing = some task →
      task.payload.msgKey ≠ getMsgKey eventId obj delayTime) :
    Inv (h.sendCheckBundleMsg eventId obj delayTime) := by
  by_cases hskip : h.isInited = false ∨ getMsgKey eventId obj delayTime = ""
  · have hsame : h.sendCheckBundleMsg eventId obj delayTime = h := if_pos hskip
    rw [hsame]
    exact inv
  obtain ⟨hinit, hkey⟩ := not_or.1 hskip
  obtain ⟨hexecuting, hinited, hnext, hmap, hwaiting⟩ :=
    sendCheckBundleMsg_spec inv (Bool.eq_true_of_not_eq_false hinit) hkey
  refine ⟨fun task htask => ?_, fun key handle hsome => ?_, fun task hex => ⟨?_, fun other hother => ?_⟩,
    fun task htask => ?_⟩
  · rw [hmap]
    rcases (hwaiting task).1 htask with ⟨htask, hne⟩ | rfl
    · rw [if_neg hne]
      exact inv.known task htask
    · exact if_pos rfl
  · rw [hmap] at hsome
    split_ifs at hsome with hnew
    · obtain rfl := Option.some.inj hsome
      exact .inl ⟨_, (hwaiting _).2 (.inr rfl), rfl, hnew.symm⟩
    · rw [hexecuting]
      refine (inv.posted key handle hsome).imp_left ?_
      rintro ⟨task, htask, hhandle, rfl⟩
      exact ⟨task, (hwaiting task).2 (.inl ⟨htask, hnew⟩), hhandle, rfl⟩
  · rw [hexecuting] at hex
    rw [hnext]
    exact (inv.running task hex).1.trans (Nat.lt_succ_self _)
  · rw [hexecuting] at hex
    rcases (hwaiting other).1 hother with ⟨hother, -⟩ | rfl
    · exact (inv.running task hex).2 other hother
    · exact ⟨(inv.running task hex).1.ne', (idle task hex).symm⟩
  · rw [hinited]
    rcases (hwaiting task).1 htask with ⟨htask, -⟩ | rfl
    · exact inv.sendable task htask
    · exact ⟨Bool.eq_true_of_not_eq_false hinit, hkey⟩

end Send

/-! ### Runs -/

theorem Inv.start (inv : Inv h) (hidle : h.executing = none) (hdue : h.ffrtQueue.Due task) :
    Inv (h.start task) where
  known other hother := inv.known other (TaskPool.mem_take.1 hother).1
  posted key handle hsome := by
    rcases inv.posted key handle hsome with ⟨other, hother, rfl, hkey⟩ | ⟨other, hex, -⟩
    · by_cases heq : other.handle = task.handle
      · obtain rfl := TaskPool.eq_of_handle hother hdue.1 heq
        exact .inr ⟨other, rfl, rfl, hkey⟩
      · exact .inl ⟨other, TaskPool.mem_take.2 ⟨hother, heq⟩, rfl, hkey⟩
    · rw [hidle] at hex
      cases hex
  running other hex := by
    obtain rfl := Option.some.inj hex
    refine ⟨h.ffrtQueue.fresh task hdue.1, fun other hother => ?_⟩
    obtain ⟨hother, hne⟩ := TaskPool.mem_take.1 hother
    exact ⟨hne, fun hkey => hne (congrArg _ (inv.unique hother hdue.1 hkey))⟩
  sendable other hother := inv.sendable other (TaskPool.mem_take.1 hother).1

theorem Inv.finish (inv : Inv h) (hex : h.executing = some task) : Inv h.finish := by
  unfold CheckBundleTimers.finish
  rw [hex]
  have herase : ∀ k : String, (h.checkBundleTaskMap.erase task.payload.msgKey)[k]? =
      if k = task.payload.msgKey then none else h.checkBundleTaskMap[k]? := by
    intro k
    rw [Std.TreeMap.getElem?_erase]
    by_cases hk : k = task.payload.msgKey
    · rw [if_pos hk, if_pos (hk ▸ Std.ReflCmp.compare_self)]
    · rw [if_neg hk, if_neg fun heq => hk (Std.LawfulEqCmp.eq_of_compare heq).symm]
  refine ⟨fun other hother => ?_, fun key handle hsome => ?_, fun _ hnone => (by cases hnone),
    inv.sendable⟩
  · rw [herase, if_neg ((inv.running task hex).2 other hother).2]
    exact inv.known other hother
  · simp only [herase] at hsome
    split_ifs at hsome with hk
    refine .inl ((inv.posted key handle hsome).resolve_right ?_)
    rintro ⟨other, hother, -, rfl⟩
    exact hk (congrArg (·.payload.msgKey) (Option.some.inj (hother.symm.trans hex)))

theorem finish_spec (hex : h.executing = some task) :
    h.finish.ffrtQueue = h.ffrtQueue ∧ h.finish.checkBundleTaskMap =
      h.checkBundleTaskMap.erase task.payload.msgKey := by
  unfold CheckBundleTimers.finish
  rw [hex]
  exact ⟨rfl, rfl⟩

theorem inv_apply (inv : Inv h) (op : CheckBundleOp) (enabled : h.Enabled op) (idle : KeyIdle h op) :
    Inv (h.apply op) := by
  cases op with
  | init => exact ⟨inv.known, inv.posted, inv.running, fun task htask => ⟨rfl, (inv.sendable task htask).2⟩⟩
  | send eventId obj delayTime => exact inv.sendCheckBundleMsg idle
  | start task => exact inv.start enabled.1 enabled.2
  | finish =>
    obtain ⟨task, hex⟩ := Option.isSome_iff_exists.1 enabled
    exact inv.finish hex
  | advance duration => exact ⟨inv.known, inv.posted, inv.running, inv.sendable⟩

theorem Inv.oneTimer (inv : Inv h) : OneTimer h where
  unique task htask other hother hkey := inv.unique htask hother hkey
  known := inv.known
  cancelled task htask eventId obj delayTime hkey hmem := by
    obtain ⟨hinit, hne⟩ := inv.sendable task htask
    obtain ⟨-, -, -, -, hwaiting⟩ := sendCheckBundleMsg_spec inv hinit (hkey ▸ hne)
    rcases (hwaiting task).1 hmem with ⟨-, hnot⟩ | hnew
    · exact hnot hkey.symm
    · exact TaskPool.ne_nextHandle htask (congrArg DelayedTask.handle hnew)

/-- In every run that sends no message for a key whose task is running, each key has one timer. -/
theorem oneTimer_run (run : Run KeyIdle h) : OneTimer h := by
  have inv : Inv h := by
    induction run with
    | new =>
      exact ⟨fun _ htask => (by cases htask), fun _ _ hsome => (by simp at hsome),
        fun _ hex => (by cases hex), fun _ htask => (by cases htask)⟩
    | step op _ enabled idle ih => exact inv_apply ih op enabled idle
  exact inv.oneTimer

/-- A message for the key of a running task: the entry of its own task is erased when that one ends. -/
theorem not_oneTimer_finish (inv : Inv h) (hex : h.executing = some task) (hinit : h.isInited = true)
    {eventId delayTime : ℤ} {obj : Option BundleActiveGroupHandlerObject}
    (hkey : task.payload.msgKey = getMsgKey eventId obj delayTime)
    (hne : getMsgKey eventId obj delayTime ≠ "") :
    ¬ OneTimer (h.sendCheckBundleMsg eventId obj delayTime).finish := by
  obtain ⟨hexecuting, -, -, -, hwaiting⟩ := sendCheckBundleMsg_spec inv hinit hne
  obtain ⟨hqueue, hmap⟩ := finish_spec (hexecuting.trans hex)
  intro hone
  have hknown := hone.known (h.newTask eventId obj delayTime)
    (by rw [hqueue]; exact (hwaiting _).2 (.inr rfl))
  rw [hmap, hkey] at hknown
  simp [newTask] at hknown

/-! ### Two messages for one key -/

def mailCheck : Option BundleActiveGroupHandlerObject :=
  some { bundleName := "com.example.mail", userId := 100, uid := 20010001 }

def mailTask : DelayedTask CheckBundleTask :=
  { handle := 0
    payload := { eventId := 0, handlerobj := mailCheck, msgKey := getMsgKey 0 mailCheck 7200000 }
    dueTime := 7200000000 }

/-- The first timer runs after two hours. -/
def mailChecked : CheckBundleTimers :=
  (((({} : CheckBundleTimers).apply .init).apply (.send 0 mailCheck 7200000)).apply
    (.advance 7200000000)).apply (.start mailTask)

theorem run_mailChecked {Allowed : CheckBundleTimers → CheckBundleOp → Prop}
    (h : ∀ h op, h.executing = none → Allowed h op) : Run Allowed mailChecked := by
  refine .step (.start mailTask) (.step (.advance 7200000000) (.step (.send 0 mailCheck 7200000)
    (.step .init .new trivial ?_) trivial ?_) trivial ?_) ⟨?_, ?_, ?_⟩ ?_
  all_goals first
    | exact h _ _ (by decide +kernel)
    | decide +kernel

/-- A message that comes while the timer of its key runs is forgotten when it ends. -/
theorem timer_forgotten :
    Run (fun _ _ => True) ((mailChecked.apply (.send 0 mailCheck 7200000)).apply .finish) ∧
      ¬ OneTimer ((mailChecked.apply (.send 0 mailCheck 7200000)).apply .finish) := by
  refine ⟨.step .finish (.step (.send 0 mailCheck 7200000) (run_mailChecked fun _ _ _ => trivial)
    trivial trivial) ?_ trivial, fun hone => ?_⟩
  · change _ = true
    decide +kernel
  have hwaiting : ∃ task ∈ ((mailChecked.apply (.send 0 mailCheck 7200000)).apply
      .finish).ffrtQueue.waiting, ((mailChecked.apply (.send 0 mailCheck 7200000)).apply
        .finish).checkBundleTaskMap[task.payload.msgKey]? = none := by
    decide +kernel
  obtain ⟨task, htask, hnone⟩ := hwaiting
  rw [hone.known task htask] at hnone
  cases hnone

theorem oneTimer_run_mailChecked : OneTimer mailChecked := by
  refine oneTimer_run (run_mailChecked fun h op hidle => ?_)
  cases op with
  | send eventId obj delayTime => exact fun task hex => by rw [hidle] at hex; cases hex
  | _ => trivial

end CheckBundleTimers
end DeviceUsageStats
