import DeviceUsageStats.Spec.EventHandler

/-! The queue of a message holds the handles of its waiting tasks as long as each task that ends finds its
own handle in front and leaves another one there, or finds no queue at all. -/

namespace DeviceUsageStats
namespace EventHandler

section Bookkeeping

variable {Id Obj : Type} {h h' : EventHandler Id Obj} {id : Id} {handles : List ℕ} {handle : ℕ}

def Pending (h : EventHandler Id Obj) (id : Id) : Prop :=
  ∃ task ∈ h.ffrtQueue.waiting, task.payload.eventId = id

/-- A queue of a message that holds the handles of the tasks that wait, and perhaps of the one that
runs. -/
structure Holds (h : EventHandler Id Obj) (id : Id) (handles : List ℕ) : Prop where
  waiting : ∀ task ∈ h.ffrtQueue.waiting, task.payload.eventId = id → task.handle ∈ handles
  posted : ∀ handle ∈ handles,
    (∃ task ∈ h.ffrtQueue.waiting, task.handle = handle ∧ task.payload.eventId = id) ∨
      ∃ task, h.executing = some task ∧ task.handle = handle ∧ task.payload.eventId = id
  nodup : handles.Nodup

/-- Each message has a queue exactly if it has tasks. -/
structure Inv (h : EventHandler Id Obj) : Prop where
  absent : ∀ id, h.taskHandlerMap id = none → ¬ h.Pending id
  present : ∀ id handles, h.taskHandlerMap id = some handles → h.Holds id handles ∧ handles ≠ []
  executing : ∀ task, h.executing = some task → task.handle < h.ffrtQueue.nextHandle ∧
    ∀ other ∈ h.ffrtQueue.waiting, other.handle ≠ task.handle
  inited : h.isInited = false → ∀ id, h.taskHandlerMap id = none

theorem Holds.of_same (hold : h.Holds id handles)
    (hwaiting : ∀ task, task.payload.eventId = id →
      (task ∈ h'.ffrtQueue.waiting ↔ task ∈ h.ffrtQueue.waiting))
    (hexecuting : ∀ task, task.payload.eventId = id →
      (h'.executing = some task ↔ h.executing = some task)) : h'.Holds id handles where
  waiting task htask hid := hold.waiting task ((hwaiting task hid).1 htask) hid
  posted handle hmem := by
    refine (hold.posted handle hmem).imp ?_ ?_
    · exact fun ⟨task, htask, heq, hid⟩ => ⟨task, (hwaiting task hid).2 htask, heq, hid⟩
    · exact fun ⟨task, hex, heq, hid⟩ => ⟨task, (hexecuting task hid).2 hex, heq, hid⟩
  nodup := hold.nodup

theorem Inv.lt_nextHandle (inv : Inv h) (hold : h.Holds id handles) (hmem : handle ∈ handles) :
    handle < h.ffrtQueue.nextHandle := by
  rcases hold.posted handle hmem with ⟨task, htask, rfl, -⟩ | ⟨task, hex, rfl, -⟩
  · exact h.ffrtQueue.fresh task htask
  · exact (inv.executing task hex).1

/-- Without a task running, the handles are those of waiting tasks. -/
theorem Holds.waits (hold : h.Holds id handles) (hidle : h.executing = none)
    (hmem : handle ∈ handles) :
    ∃ task ∈ h.ffrtQueue.waiting, task.handle = handle ∧ task.payload.eventId = id := by
  refine (hold.posted handle hmem).resolve_right ?_
  rintro ⟨task, hex, -⟩
  rw [hidle] at hex
  cases hex

theorem Inv.start (inv : Inv h) (hidle : h.executing = none) {task : DelayedTask (EventTask Id Obj)}
    (hdue : h.ffrtQueue.Due task) :
    Inv (h.start task) where
  absent id hmap := by
    rintro ⟨other, hother, hid⟩
    exact inv.absent id hmap ⟨other, (TaskPool.mem_take.1 hother).1, hid⟩
  present id handles hmap := by
    obtain ⟨hold, hne⟩ := inv.present id handles hmap
    refine ⟨⟨fun other hother => hold.waiting other (TaskPool.mem_take.1 hother).1,
      fun handle hmem => ?_, hold.nodup⟩, hne⟩
    obtain ⟨other, hother, rfl, hid⟩ := hold.waits hidle hmem
    by_cases heq : other.handle = task.handle
    · obtain rfl := TaskPool.eq_of_handle hother hdue.1 heq
      exact .inr ⟨other, rfl, rfl, hid⟩
    · exact .inl ⟨other, TaskPool.mem_take.2 ⟨hother, heq⟩, rfl, hid⟩
  executing other hex := by
    obtain rfl := Option.some.inj hex
    exact ⟨h.ffrtQueue.fresh task hdue.1, fun other hother => (TaskPool.mem_take.1 hother).2⟩
  inited := inv.inited

end Bookkeeping

variable {Id Obj : Type} [DecidableEq Id] {h : EventHandler Id Obj} {id : Id} {handles : List ℕ}
  {task : DelayedTask (EventTask Id Obj)}

/-- The bookkeeping matches the queue. -/
structure Matches (h : EventHandler Id Obj) : Prop where
  removed : ∀ id, ¬ (h.removeEvent id).Pending id
  hasEvent : h.executing = none → ∀ id, h.hasEvent id = true ↔ h.Pending id

/-- A task that ends finds no queue of its message, or its own handle in front of another one. -/
def EndsInOrder (h : EventHandler Id Obj) : HandlerOp Id Obj → Prop
  | .finish => ∀ task, h.executing = some task →
      h.taskHandlerMap task.payload.eventId = none ∨
        ∃ rest, rest ≠ [] ∧ h.taskHandlerMap task.payload.eventId = some (task.handle :: rest)
  | _ => True

theorem waiting_removeEvent (inv : Inv h) (id : Id) (task : DelayedTask (EventTask Id Obj)) :
    task ∈ (h.removeEvent id).ffrtQueue.waiting ↔
      task ∈ h.ffrtQueue.waiting ∧ task.payload.eventId ≠ id := by
  have hnone : h.taskHandlerMap id = none →
      (task ∈ h.ffrtQueue.waiting ↔ task ∈ h.ffrtQueue.waiting ∧ task.payload.eventId ≠ id) :=
    fun hmap => ⟨fun htask => ⟨htask, fun hid => inv.absent id hmap ⟨task, htask, hid⟩⟩, And.left⟩
  unfold removeEvent
  split_ifs with hinit
  · exact hnone (inv.inited hinit id)
  · cases hmap : h.taskHandlerMap id with
    | none => exact hnone hmap
    | some handles =>
      obtain ⟨hold, -⟩ := inv.present id handles hmap
      refine TaskPool.mem_cancel.trans (and_congr_right fun htask => not_congr ⟨fun hmem => ?_,
        hold.waiting task htask⟩)
      rcases hold.posted _ hmem with ⟨other, hother, heq, hid⟩ | ⟨other, hex, heq, -⟩
      · rwa [TaskPool.eq_of_handle htask hother heq.symm]
      · exact absurd heq.symm ((inv.executing other hex).2 task htask)

theorem Inv.matches (inv : Inv h) : Matches h where
  removed id hpending := by
    obtain ⟨task, htask, hid⟩ := hpending
    exact ((waiting_removeEvent inv id task).1 htask).2 hid
  hasEvent hidle id := by
    unfold EventHandler.hasEvent
    rw [Bool.and_eq_true]
    refine ⟨fun ⟨_, hsome⟩ => ?_, fun hpending => ?_⟩
    · obtain ⟨handles, hmap⟩ := Option.isSome_iff_exists.1 hsome
      obtain ⟨hold, hne⟩ := inv.present id handles hmap
      obtain ⟨handle, hmem⟩ := List.exists_mem_of_ne_nil handles hne
      obtain ⟨task, htask, -, hid⟩ := hold.waits hidle hmem
      exact ⟨task, htask, hid⟩
    · have hsome : h.taskHandlerMap id ≠ none := fun hmap => inv.absent id hmap hpending
      refine ⟨?_, Option.isSome_iff_ne_none.2 hsome⟩
      by_contra hinit
      exact hsome (inv.inited (Bool.eq_false_iff.2 hinit) id)

/-! ### One step -/

theorem Inv.sendEvent (inv : Inv h) (id : Id) (obj : Obj) (delayTime : ℤ) :
    Inv (h.sendEvent id obj delayTime) := by
  unfold EventHandler.sendEvent
  split_ifs with hinit
  · exact inv
  set new : DelayedTask (EventTask Id Obj) :=
    { handle := h.ffrtQueue.nextHandle
      payload := { eventId := id, handlerobj := obj, delayTime := delayTime }
      dueTime := h.ffrtQueue.now + getFFRTDelayTime delayTime }
  have hwaiting : ∀ task, task ∈ (h.ffrtQueue.submit new.payload
      (getFFRTDelayTime delayTime)).waiting ↔ task ∈ h.ffrtQueue.waiting ∨ task = new := fun _ =>
    TaskPool.mem_submit
  have hother : ∀ task : DelayedTask (EventTask Id Obj), task.payload.eventId ≠ id →
      (task ∈ (h.ffrtQueue.submit new.payload (getFFRTDelayTime delayTime)).waiting ↔
        task ∈ h.ffrtQueue.waiting) := fun task hid =>
    (hwaiting task).trans (or_iff_left fun heq => hid (heq ▸ rfl))
  -- the queue so far, which may be missing
  have hold : h.Holds id ((h.taskHandlerMap id).getD []) := by
    cases hmap : h.taskHandlerMap id with
    | none =>
      exact ⟨fun task htask hid => absurd ⟨task, htask, hid⟩ (inv.absent id hmap),
        fun _ hmem => (by cases hmem), List.nodup_nil⟩
    | some handles => exact (inv.present id handles hmap).1
  refine ⟨fun id' hmap => ?_, fun id' handles hmap => ?_,
    fun task hex => ⟨(inv.executing task hex).1.trans (Nat.lt_succ_self _), fun other hmem => ?_⟩,
    fun hnot => absurd hnot hinit⟩
  · by_cases hid : id' = id
    · subst hid
      simp only [Function.update_self, reduceCtorEq] at hmap
    · simp only [Function.update_of_ne hid] at hmap
      rintro ⟨task, htask, rfl⟩
      exact inv.absent _ hmap ⟨task, (hother task hid).1 htask, rfl⟩
  · by_cases hid : id' = id
    · subst hid
      simp only [Function.update_self, Option.some_inj] at hmap
      subst hmap
      refine ⟨⟨fun task htask hevent => ?_, fun handle hmem => ?_, ?_⟩,
        List.append_ne_nil_of_right_ne_nil _ (List.cons_ne_nil _ _)⟩
      · rcases (hwaiting task).1 htask with htask | rfl
        · exact List.mem_append_left _ (hold.waiting task htask hevent)
        · exact List.mem_append_right _ (List.mem_singleton_self _)
      · rcases List.mem_append.1 hmem with hmem | hlast
        · exact (hold.posted handle hmem).imp_left
            fun ⟨task, htask, heq⟩ => ⟨task, (hwaiting task).2 (.inl htask), heq⟩
        · exact .inl ⟨new, (hwaiting new).2 (.inr rfl), (List.mem_singleton.1 hlast).symm, rfl⟩
      · refine List.nodup_append'.2 ⟨hold.nodup, List.nodup_singleton _, fun handle hmem hlast => ?_⟩
        exact (inv.lt_nextHandle hold hmem).ne (List.mem_singleton.1 hlast)
    · simp only [Function.update_of_ne hid] at hmap
      obtain ⟨hold', hne⟩ := inv.present id' handles hmap
      exact ⟨hold'.of_same (fun task hevent => hother task (hevent ▸ hid)) fun _ _ => .rfl, hne⟩
  · rcases (hwaiting other).1 hmem with hmem | rfl
    · exact (inv.executing task hex).2 other hmem
    · exact (inv.executing task hex).1.ne'

theorem Inv.removeEvent (inv : Inv h) (id : Id) : Inv (h.removeEvent id) := by
  have hwaiting := waiting_removeEvent inv id
  have hsame : (h.removeEvent id).executing = h.executing ∧
      (h.removeEvent id).isInited = h.isInited ∧
      (h.removeEvent id).ffrtQueue.nextHandle = h.ffrtQueue.nextHandle ∧
      ∀ id', (h.removeEvent id).taskHandlerMap id' =
        if id' = id then none else h.taskHandlerMap id' := by
    unfold EventHandler.removeEvent
    split_ifs with hinit
    · refine ⟨rfl, rfl, rfl, fun id' => ?_⟩
      rw [inv.inited hinit, ite_self]
    · cases hmap : h.taskHandlerMap id with
      | none =>
        refine ⟨rfl, rfl, rfl, fun id' => ?_⟩
        split_ifs with hid
        · rw [hid, hmap]
        · rfl
      | some handles => exact ⟨rfl, rfl, rfl, fun id' => Function.update_apply ..⟩
  obtain ⟨hexecuting, hinited, hnext, hmap⟩ := hsame
  refine ⟨fun id' hnone => ?_, fun id' handles hsome => ?_, fun task hex => ?_, fun hnot id' => ?_⟩
  · rintro ⟨task, htask, rfl⟩
    obtain ⟨htask, hid⟩ := (hwaiting task).1 htask
    rw [hmap, if_neg hid] at hnone
    exact inv.absent _ hnone ⟨task, htask, rfl⟩
  · rw [hmap] at hsome
    split_ifs at hsome with hid
    obtain ⟨hold, hne⟩ := inv.present id' handles hsome
    refine ⟨hold.of_same (fun task hevent => ?_) fun task _ => by rw [hexecuting], hne⟩
    rw [hwaiting, hevent, and_iff_left hid]
  · rw [hexecuting] at hex
    rw [hnext]
    exact ⟨(inv.executing task hex).1, fun other hother =>
      (inv.executing task hex).2 other ((hwaiting other).1 hother).1⟩
  · rw [hinited] at hnot
    rw [hmap, inv.inited hnot, ite_self]

theorem finish_spec (hex : h.executing = some task) :
    h.finish.ffrtQueue = h.ffrtQueue ∧ h.finish.executing = none ∧
      h.finish.isInited = h.isInited ∧ ∀ id, h.finish.taskHandlerMap id =
        if id = task.payload.eventId then (h.taskHandlerMap id).map List.tail
        else h.taskHandlerMap id := by
  unfold EventHandler.finish
  rw [hex]
  cases hmap : h.taskHandlerMap task.payload.eventId with
  | none =>
    simp only [hmap]
    refine ⟨trivial, trivial, trivial, fun id => ?_⟩
    split_ifs with hid
    · rw [hid, hmap]
      rfl
    · rfl
  | some handles =>
    simp only [hmap]
    refine ⟨trivial, trivial, trivial, fun id => ?_⟩
    rw [Function.update_apply]
    split_ifs with hid
    · rw [hid, hmap]
      rfl
    · rfl

theorem Inv.finish (inv : Inv h) (hex : h.executing = some task)
    (inOrder : h.taskHandlerMap task.payload.eventId = none ∨
      ∃ rest, rest ≠ [] ∧ h.taskHandlerMap task.payload.eventId = some (task.handle :: rest)) :
    Inv h.finish := by
  obtain ⟨hqueue, hnone, hinited, hmap⟩ := finish_spec hex
  refine ⟨fun id habsent => ?_, fun id handles hsome => ?_, fun other hother => ?_, fun hnot id => ?_⟩
  · have habsent' : h.taskHandlerMap id = none := by
      rw [hmap] at habsent
      split_ifs at habsent
      · exact Option.map_eq_none_iff.1 habsent
      · exact habsent
    rintro ⟨other, hother, hid⟩
    rw [hqueue] at hother
    exact inv.absent id habsent' ⟨other, hother, hid⟩
  · rw [hmap] at hsome
    split_ifs at hsome with hid
    · subst hid
      obtain ⟨handles', hmap', rfl⟩ := Option.map_eq_some_iff.1 hsome
      rcases inOrder with habsent | ⟨rest, hne, hown⟩
      · rw [habsent] at hmap'
        cases hmap'
      obtain rfl := Option.some.inj (hown.symm.trans hmap')
      obtain ⟨hold, -⟩ := inv.present _ _ hown
      obtain ⟨hnot, hnodup⟩ := List.nodup_cons.1 hold.nodup
      refine ⟨⟨fun other hother hevent => ?_, fun handle hmem => .inl ?_, hnodup⟩, hne⟩
      · rw [hqueue] at hother
        exact (List.mem_cons.1 (hold.waiting other hother hevent)).resolve_left
          ((inv.executing task hex).2 other hother)
      · rw [hqueue]
        refine (hold.posted handle (List.mem_cons_of_mem _ hmem)).resolve_right ?_
        rintro ⟨other, hother, rfl, -⟩
        obtain rfl := Option.some.inj (hex.symm.trans hother)
        exact hnot hmem
    -- the other messages lose nothing when the task is no longer running
    · obtain ⟨hold, hne⟩ := inv.present id handles hsome
      refine ⟨hold.of_same (fun _ _ => by rw [hqueue]) fun other hevent => ?_, hne⟩
      rw [hnone]
      refine ⟨fun heq => (by cases heq), fun heq => absurd ?_ hid⟩
      rw [← hevent, Option.some.inj (hex.symm.trans heq)]
  · rw [hnone] at hother
    cases hother
  · rw [hinited] at hnot
    rw [hmap, inv.inited hnot, Option.map_none, ite_self]

/-- A task that ends out of order leaves a queue without tasks, or a task that no removal cancels. -/
theorem not_matches_finish (inv : Inv h) (hex : h.executing = some task)
    (hnot : ¬ EndsInOrder h .finish) : ¬ Matches h.finish := by
  obtain ⟨hqueue, hnone, hinited, hmap⟩ := finish_spec hex
  refine fun hmatches => hnot fun other hother => ?_
  obtain rfl := Option.some.inj (hex.symm.trans hother)
  cases hown : h.taskHandlerMap task.payload.eventId with
  | none => exact .inl rfl
  | some handles =>
    obtain ⟨hold, hne⟩ := inv.present _ _ hown
    obtain ⟨front, rest, rfl⟩ := List.exists_cons_of_ne_nil hne
    have hinit : h.isInited = true := by
      by_contra hfalse
      rw [inv.inited (Bool.eq_false_iff.2 hfalse)] at hown
      cases hown
    have hrest : h.finish.taskHandlerMap task.payload.eventId = some rest := by
      rw [hmap, if_pos rfl, hown]
      rfl
    -- the handle of a waiting task would be lost to the removal
    have hfront : front = task.handle := by
      rcases hold.posted front List.mem_cons_self with
        ⟨waiting, hwaiting, rfl, hid⟩ | ⟨running, hrunning, heq, -⟩
      · refine absurd ⟨waiting, ?_, hid⟩ (hmatches.removed task.payload.eventId)
        unfold EventHandler.removeEvent
        rw [hinited, hinit, hrest, hqueue]
        exact TaskPool.mem_cancel.2 ⟨hwaiting, (List.nodup_cons.1 hold.nodup).1⟩
      · obtain rfl := Option.some.inj (hex.symm.trans hrunning)
        exact heq.symm
    refine .inr ⟨rest, ?_, by rw [hfront]⟩
    rintro rfl
    -- the key would be there for no task
    have hhas : h.finish.hasEvent task.payload.eventId = true := by
      rw [EventHandler.hasEvent, hinited, hinit, hrest]
      rfl
    obtain ⟨waiting, hwaiting, hid⟩ := (hmatches.hasEvent hnone _).1 hhas
    rw [hqueue] at hwaiting
    exact (inv.executing task hex).2 waiting hwaiting
      ((List.mem_singleton.1 (hold.waiting waiting hwaiting hid)).trans hfront)

theorem inv_apply (inv : Inv h) (op : HandlerOp Id Obj) (enabled : h.Enabled op)
    (inOrder : EndsInOrder h op) : Inv (h.apply op) := by
  cases op with
  | init => exact ⟨inv.absent, fun id handles hmap =>
      ⟨(inv.present id handles hmap).1.of_same (fun _ _ => .rfl) fun _ _ => .rfl,
        (inv.present id handles hmap).2⟩, inv.executing, fun hnot => by cases hnot⟩
  | send id obj delayTime => exact inv.sendEvent id obj delayTime
  | remove id => exact inv.removeEvent id
  | start task => exact inv.start enabled.1 enabled.2
  | finish =>
    obtain ⟨task, hex⟩ := Option.isSome_iff_exists.1 enabled
    exact inv.finish hex (inOrder task hex)
  | advance duration => exact ⟨inv.absent, fun id handles hmap =>
      ⟨(inv.present id handles hmap).1.of_same (fun _ _ => .rfl) fun _ _ => .rfl,
        (inv.present id handles hmap).2⟩, inv.executing, inv.inited⟩

/-- In every run whose tasks end in order the bookkeeping matches the queue. -/
theorem queue_matches_run (run : Run EndsInOrder h) : Matches h := by
  have inv : Inv h := by
    induction run with
    | new =>
      exact ⟨fun _ _ ⟨_, htask, _⟩ => (by cases htask), fun _ _ hmap => (by cases hmap),
        fun _ hex => (by cases hex), fun _ _ => rfl⟩
    | step op _ enabled inOrder ih => exact inv_apply ih op enabled inOrder
  exact inv.matches

/-! ### The report handler of the core

Without the times this is the handler that the core's runs go on. -/

section ReportHandler

variable {h : EventHandler ReportMessage ℤ} {task : DelayedTask (EventTask ReportMessage ℤ)}

def pendingTask (task : DelayedTask (EventTask ReportMessage ℤ)) : PendingTask :=
  { handle := task.handle, eventId := task.payload.eventId, userId := task.payload.handlerobj
    delayTime := task.payload.delayTime }

def reportHandler (h : EventHandler ReportMessage ℤ) : BundleActiveReportHandler :=
  { taskHandlerMap := h.taskHandlerMap
    pending := h.ffrtQueue.waiting.map pendingTask
    nextHandle := h.ffrtQueue.nextHandle }

theorem reportHandler_sendEvent (hinit : h.isInited = true) (id : ReportMessage) (u delayTime : ℤ) :
    (h.sendEvent id u delayTime).reportHandler = h.reportHandler.sendEvent id u delayTime := by
  unfold EventHandler.sendEvent BundleActiveReportHandler.sendEvent reportHandler
  rw [if_neg (by rw [hinit]; decide)]
  simp [TaskPool.submit, pendingTask]

theorem reportHandler_removeEvent (hinit : h.isInited = true) (id : ReportMessage) :
    (h.removeEvent id).reportHandler = h.reportHandler.removeEvent id := by
  unfold EventHandler.removeEvent BundleActiveReportHandler.removeEvent reportHandler
  rw [if_neg (by rw [hinit]; decide)]
  cases hmap : h.taskHandlerMap id with
  | none => simp [hmap]
  | some handles =>
    simp only [hmap, TaskPool.cancel, List.filter_map]
    rfl

theorem reportHandler_start (hdue : h.ffrtQueue.Due task) :
    (h.start task).reportHandler = h.reportHandler.start (pendingTask task) := by
  have hnodup : (h.ffrtQueue.waiting.map pendingTask).Nodup := by
    have hhandles := h.ffrtQueue.nodup
    rw [show (fun task : DelayedTask (EventTask ReportMessage ℤ) => task.handle) =
      PendingTask.handle ∘ pendingTask from rfl, ← List.map_map] at hhandles
    exact hhandles.of_map
  unfold EventHandler.start BundleActiveReportHandler.start reportHandler
  simp only [hnodup.erase_eq_filter, List.filter_map, TaskPool.take, TaskPool.cancel]
  congr 2
  refine List.filter_congr fun other hother => ?_
  rw [Bool.eq_iff_iff]
  simp only [List.mem_singleton, decide_eq_true_eq, Function.comp_apply, bne_iff_ne, ne_eq]
  refine not_congr ⟨fun heq => ?_, fun heq => congrArg PendingTask.handle heq⟩
  rw [TaskPool.eq_of_handle hother hdue.1 heq]

theorem reportHandler_finish (hex : h.executing = some task) :
    h.finish.reportHandler = h.reportHandler.finish task.payload.eventId := by
  unfold EventHandler.finish BundleActiveReportHandler.finish reportHandler
  rw [hex]
  cases hmap : h.taskHandlerMap task.payload.eventId <;> simp [hmap]

end ReportHandler

/-! ### One task -/

def reportTask : DelayedTask (EventTask ReportMessage ℤ) :=
  { handle := 0
    payload := { eventId := .reportEvent, handlerobj := 100, delayTime := 0 }
    dueTime := 0 }

def reportStarted : EventHandler ReportMessage ℤ :=
  ((({} : EventHandler ReportMessage ℤ).apply .init).apply (.send .reportEvent 100 0)).apply
    (.start reportTask)

theorem run_reportStarted {Allowed : EventHandler ReportMessage ℤ → HandlerOp ReportMessage ℤ → Prop}
    (h : ∀ h op, op ≠ .finish → Allowed h op) : Run Allowed reportStarted := by
  refine .step (.start reportTask) (.step (.send ReportMessage.reportEvent 100 0)
    (.step .init .new trivial ?_) trivial ?_) ⟨rfl, by decide +kernel, by decide⟩ ?_
  all_goals exact h _ _ fun heq => by cases heq

/-- The key of a message outlives its only task. -/
theorem hasEvent_after_last : Run (fun _ _ => True) (reportStarted.apply .finish) ∧
    ¬ Matches (reportStarted.apply .finish) := by
  refine ⟨.step .finish (run_reportStarted fun _ _ _ => trivial) rfl trivial, fun h => ?_⟩
  obtain ⟨task, htask, -⟩ := (h.hasEvent rfl ReportMessage.reportEvent).1 (by decide +kernel)
  have hempty : (reportStarted.apply .finish).ffrtQueue.waiting = [] := by decide +kernel
  rw [hempty] at htask
  cases htask

theorem queue_matches_run_reportStarted : Matches reportStarted := by
  refine queue_matches_run (run_reportStarted fun h op hop => ?_)
  cases op with
  | finish => exact absurd rfl hop
  | _ => trivial

end EventHandler
end DeviceUsageStats
