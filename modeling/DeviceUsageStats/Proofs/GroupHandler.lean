import DeviceUsageStats.Proofs.CheckBundle
import DeviceUsageStats.Proofs.GroupCallbacks
import DeviceUsageStats.Spec.GroupHandler

/-! What the messages of the group handler do for the bundles. The periodic check names no bundle, and the
check that follows a use waits until it has run, whatever becomes of its bundle meanwhile. -/

namespace DeviceUsageStats

/-! ### The two kinds of tasks -/

namespace EventHandler

variable {Id Obj : Type} [DecidableEq Id] {h : EventHandler Id Obj} {P : EventTask Id Obj → Prop}

structure All (P : EventTask Id Obj → Prop) (h : EventHandler Id Obj) : Prop where
  waiting : ∀ task ∈ h.ffrtQueue.waiting, P task.payload
  running : ∀ task, h.executing = some task → P task.payload

theorem All.sendEvent (all : All P h) {eventId : Id} {obj : Obj} {delayTime : ℤ}
    (hnew : P ⟨eventId, obj, delayTime⟩) : All P (h.sendEvent eventId obj delayTime) := by
  unfold EventHandler.sendEvent
  split_ifs
  · exact all
  · refine ⟨fun task htask => ?_, all.running⟩
    rcases TaskPool.mem_submit.1 htask with htask | rfl
    · exact all.waiting task htask
    · exact hnew

theorem All.removeEvent (all : All P h) (eventId : Id) : All P (h.removeEvent eventId) := by
  unfold EventHandler.removeEvent
  split_ifs
  · exact all
  · cases h.taskHandlerMap eventId with
    | none => exact all
    | some handles =>
      exact ⟨fun task htask => all.waiting task (TaskPool.mem_cancel.1 htask).1, all.running⟩

omit [DecidableEq Id] in
theorem All.start (all : All P h) {task : DelayedTask (EventTask Id Obj)}
    (htask : task ∈ h.ffrtQueue.waiting) : All P (h.start task) := by
  refine ⟨fun other hother => all.waiting other (TaskPool.mem_take.1 hother).1, fun other hother => ?_⟩
  obtain rfl := Option.some.inj hother
  exact all.waiting _ htask

theorem All.finish (all : All P h) : All P h.finish := by
  unfold EventHandler.finish
  cases h.executing with
  | none => exact all
  | some task =>
    simp only
    cases h.taskHandlerMap task.payload.eventId with
    | none => exact ⟨all.waiting, fun _ hnone => by cases hnone⟩
    | some handles => exact ⟨all.waiting, fun _ hnone => by cases hnone⟩

end EventHandler

namespace CheckBundleTimers

variable {h : CheckBundleTimers} {task : DelayedTask CheckBundleTask} {eventId delayTime : ℤ}
  {obj : Option BundleActiveGroupHandlerObject}

/-- The map holds handles of tasks under the keys of these. -/
structure Handles (h : CheckBundleTimers) : Prop where
  old : ∀ (key : String) (handle : ℕ), h.checkBundleTaskMap[key]? = some handle →
    handle < h.ffrtQueue.nextHandle
  own : ∀ (key : String) (handle : ℕ), h.checkBundleTaskMap[key]? = some handle →
    ∀ task ∈ h.ffrtQueue.waiting, task.handle = handle → task.payload.msgKey = key

theorem Handles.erase (handles : Handles h) (key : String) :
    Handles { h with checkBundleTaskMap := h.checkBundleTaskMap.erase key } := by
  have hkept : ∀ (k : String) (handle : ℕ), (h.checkBundleTaskMap.erase key)[k]? = some handle →
      h.checkBundleTaskMap[k]? = some handle := by
    intro k handle hk
    rw [Std.TreeMap.getElem?_erase] at hk
    split_ifs at hk
    exact hk
  exact ⟨fun k handle hk => handles.old k handle (hkept k handle hk),
    fun k handle hk => handles.own k handle (hkept k handle hk)⟩

theorem Handles.removeCheckBundleMsg (handles : Handles h) (key : String) :
    Handles (h.removeCheckBundleMsg key) ∧
      (h.removeCheckBundleMsg key).ffrtQueue.nextHandle = h.ffrtQueue.nextHandle ∧
      (h.removeCheckBundleMsg key).ffrtQueue.now = h.ffrtQueue.now ∧
      (h.removeCheckBundleMsg key).executing = h.executing ∧
      ∀ task ∈ h.ffrtQueue.waiting, task.payload.msgKey ≠ key →
        task ∈ (h.removeCheckBundleMsg key).ffrtQueue.waiting := by
  unfold CheckBundleTimers.removeCheckBundleMsg
  split_ifs
  · exact ⟨handles, rfl, rfl, rfl, fun _ htask _ => htask⟩
  · cases hmap : h.checkBundleTaskMap[key]? with
    | none => exact ⟨handles, rfl, rfl, rfl, fun _ htask _ => htask⟩
    | some handle =>
      have herased := handles.erase key
      refine ⟨⟨herased.old, fun k handle' hk task htask =>
        herased.own k handle' hk task (TaskPool.mem_cancel.1 htask).1⟩, rfl, rfl, rfl,
        fun task htask hne => TaskPool.mem_cancel.2 ⟨htask, fun hmem => hne ?_⟩⟩
      exact handles.own key handle hmap task htask (List.mem_singleton.1 hmem)

theorem Handles.sendCheckBundleMsg (handles : Handles h) (hinit : h.isInited = true)
    (hkey : getMsgKey eventId obj delayTime ≠ "") :
    Handles (h.sendCheckBundleMsg eventId obj delayTime) ∧
      (h.sendCheckBundleMsg eventId obj delayTime).isInited = true ∧
      (h.sendCheckBundleMsg eventId obj delayTime).executing = h.executing ∧
      h.newTask eventId obj delayTime ∈
        (h.sendCheckBundleMsg eventId obj delayTime).ffrtQueue.waiting ∧
      ∀ task ∈ h.ffrtQueue.waiting, task.payload.msgKey ≠ getMsgKey eventId obj delayTime →
        task ∈ (h.sendCheckBundleMsg eventId obj delayTime).ffrtQueue.waiting := by
  set key := getMsgKey eventId obj delayTime with hkeyDef
  obtain ⟨h₁, heq, hinit₁, handles₁, hnext, hnow, hexecuting, hkept⟩ :
      ∃ h₁, (if h.checkBundleTaskMap.contains key then h.removeCheckBundleMsg key else h) = h₁ ∧
        h₁.isInited = true ∧ Handles h₁ ∧ h₁.ffrtQueue.nextHandle = h.ffrtQueue.nextHandle ∧
        h₁.ffrtQueue.now = h.ffrtQueue.now ∧ h₁.executing = h.executing ∧
        ∀ task ∈ h.ffrtQueue.waiting, task.payload.msgKey ≠ key → task ∈ h₁.ffrtQueue.waiting := by
    have hremoved : (h.removeCheckBundleMsg key).isInited = true := by
      unfold CheckBundleTimers.removeCheckBundleMsg
      split_ifs with hnot
      · exact hinit
      · cases h.checkBundleTaskMap[key]? <;> exact hinit
    split_ifs
    · exact ⟨_, rfl, hremoved, handles.removeCheckBundleMsg key⟩
    · exact ⟨h, rfl, hinit, handles, rfl, rfl, rfl, fun _ htask _ => htask⟩
  unfold CheckBundleTimers.sendCheckBundleMsg
  simp only [← hkeyDef, heq]
  rw [if_neg (not_or.2 ⟨by rw [hinit]; decide, hkey⟩)]
  refine ⟨⟨fun k handle hk => ?_, fun k handle hk task htask hhandle => ?_⟩, hinit₁, hexecuting, ?_,
    fun task htask hne => TaskPool.mem_submit.2 (.inl (hkept task htask hne))⟩
  · simp only [Std.TreeMap.getElem?_insert] at hk
    rw [TaskPool.nextHandle_submit]
    split_ifs at hk
    · rw [← Option.some.inj hk]
      exact Nat.lt_succ_self _
    · exact (handles₁.old k handle hk).trans (Nat.lt_succ_self _)
  · simp only [Std.TreeMap.getElem?_insert] at hk
    rcases TaskPool.mem_submit.1 htask with htask | rfl
    · split_ifs at hk
      · rw [← Option.some.inj hk] at hhandle
        exact absurd hhandle (TaskPool.ne_nextHandle htask)
      · exact handles₁.own k handle hk task htask hhandle
    · split_ifs at hk with hnew
      · exact Std.LawfulEqCmp.eq_of_compare hnew
      · exact absurd hhandle (handles₁.old k handle hk).ne'
  · refine TaskPool.mem_submit.2 (.inr ?_)
    rw [newTask, hnext, hnow]

theorem mem_sendCheckBundleMsg
    (htask : task ∈ (h.sendCheckBundleMsg eventId obj delayTime).ffrtQueue.waiting) :
    task ∈ h.ffrtQueue.waiting ∨
      task.payload = ⟨eventId, obj, getMsgKey eventId obj delayTime⟩ := by
  have hremoved : ∀ key, task ∈ (h.removeCheckBundleMsg key).ffrtQueue.waiting →
      task ∈ h.ffrtQueue.waiting := by
    intro key hmem
    unfold removeCheckBundleMsg at hmem
    split_ifs at hmem
    · exact hmem
    · cases hmap : h.checkBundleTaskMap[key]? with
      | none =>
        rw [hmap] at hmem
        exact hmem
      | some handle =>
        rw [hmap] at hmem
        exact (TaskPool.mem_cancel.1 hmem).1
  unfold CheckBundleTimers.sendCheckBundleMsg at htask
  simp only at htask
  split_ifs at htask
  · exact .inl htask
  · rcases TaskPool.mem_submit.1 htask with htask | rfl
    · exact .inl (hremoved _ htask)
    · exact .inr rfl
  · rcases TaskPool.mem_submit.1 htask with htask | rfl
    · exact .inl htask
    · exact .inr rfl

theorem Handles.start (handles : Handles h) (task : DelayedTask CheckBundleTask) :
    Handles (h.start task) :=
  ⟨handles.old, fun key handle hk other hother =>
    handles.own key handle hk other (TaskPool.mem_take.1 hother).1⟩

theorem Handles.finish (handles : Handles h) : Handles h.finish := by
  unfold CheckBundleTimers.finish
  cases h.executing with
  | none => exact handles
  | some task =>
    have herased := handles.erase task.payload.msgKey
    exact ⟨herased.old, herased.own⟩

theorem waiting_finish (h : CheckBundleTimers) : h.finish.ffrtQueue = h.ffrtQueue := by
  unfold CheckBundleTimers.finish
  cases h.executing <;> rfl

theorem isInited_finish (h : CheckBundleTimers) : h.finish.isInited = h.isInited := by
  unfold CheckBundleTimers.finish
  cases h.executing <;> rfl

end CheckBundleTimers

/-! ### The entries in memory -/

namespace HistoryState

variable {s s' : HistoryState} {u u' uid t : ℤ} {k b : String} {e : BundleActivePackageHistory}
  {c : BundleActiveGroupController}

theorem mem_of_entryOf (he : s.entryOf u k = some e) : u ∈ s.userHistory := by
  obtain ⟨m, hm, -⟩ := Option.bind_eq_some_iff.1 he
  rw [Std.TreeMap.mem_iff_isSome_getElem?, hm]
  rfl

theorem entryOf_eq_historyOf (hu : u ∈ s.userHistory) (k : String) :
    s.entryOf u k = s.historyOf u k := by
  rw [Std.TreeMap.mem_iff_isSome_getElem?, Option.isSome_iff_exists] at hu
  obtain ⟨m, hm⟩ := hu
  rw [entryOf, hm, historyOf_of_memory hm]
  rfl

theorem mem_getUsageHistoryForBundle (b : String) (u t : ℤ) (create : Bool) (uid : ℤ)
    (hu : u' ∈ s.userHistory) : u' ∈ (s.getUsageHistoryForBundle b u t create uid).2.userHistory := by
  have hloaded : u' ∈ (s.getUserHistory u create).2.userHistory := by
    unfold getUserHistory
    cases s.userHistory[u]? with
    | some m => exact hu
    | none =>
      cases create with
      | true => exact Std.TreeMap.mem_insert.2 (.inr hu)
      | false => exact hu
  unfold getUsageHistoryForBundle getUsageHistoryInUserHistory
  generalize s.getUserHistory u create = loaded at hloaded ⊢
  rcases loaded with ⟨_ | m, s₁⟩
  · exact hloaded
  · simp only
    cases m[getBundleUsageKey b uid]? with
    | some e => exact hloaded
    | none =>
      cases create with
      | true => exact (mem_putEntry u').2 hloaded
      | false => exact hloaded

theorem mem_setAppGroup (b : String) (u uid t newGroup : ℤ) (groupReason : ℕ) (isFlush : Bool)
    (hu : u' ∈ s.userHistory) :
    u' ∈ (s.setAppGroup b u uid t newGroup groupReason isFlush).2.userHistory := by
  unfold setAppGroup
  cases (s.getUsageHistoryForBundle b u t false uid).1 with
  | none => exact hu
  | some e =>
    by_cases hsame : e.currentGroup = newGroup ∧ e.reasonInGroup = groupReason
    · simp only [if_pos hsame]
      exact hu
    · simp only [if_neg hsame]
      cases isFlush with
      | false => exact (mem_putEntry u').2 hu
      | true => exact (mem_writeBundleUsage u u').2 ((mem_putEntry u').2 hu)

theorem mem_checkAndUpdateGroup (hs : s.Named) (b : String) (u uid t : ℤ) :
    u ∈ (c.checkAndUpdateGroup s b u uid t).userHistory ∧
      ∀ u' ∈ s.userHistory, u' ∈ (c.checkAndUpdateGroup s b u uid t).userHistory := by
  obtain ⟨s₁, hget, hu, -, -⟩ := getUsageHistoryForBundle_true hs b u t uid
  have hkept : ∀ u' ∈ s.userHistory, u' ∈ s₁.userHistory := by
    intro u' hu'
    have hmem := mem_getUsageHistoryForBundle b u t true uid hu'
    rwa [hget] at hmem
  have hchecked : ∀ u', u' ∈ s₁.userHistory →
      u' ∈ (c.checkAndUpdateGroup s b u uid t).userHistory := by
    intro u' hu'
    unfold BundleActiveGroupController.checkAndUpdateGroup
    simp only [hget]
    split_ifs
    · exact hu'
    · split
      · exact hu'
      · split_ifs
        · exact mem_setAppGroup b u uid t _ _ false hu'
        · exact hu'
  exact ⟨hchecked u hu, fun u' hu' => hchecked u' (hkept u' hu')⟩

theorem entryOf_checkAndUpdateGroup (hs : s.Named) (b : String) (u uid t : ℤ)
    (he : s.entryOf u' k = some e) (hne : k ≠ getBundleUsageKey b uid) :
    (c.checkAndUpdateGroup s b u uid t).entryOf u' k = some e := by
  have hu := mem_of_entryOf he
  rw [entryOf_eq_historyOf ((mem_checkAndUpdateGroup hs b u uid t).2 u' hu),
    (checkAndUpdateGroup_spec hs b u uid t).entry, if_neg fun h => hne h.2,
    ← entryOf_eq_historyOf hu, he]

theorem entryOf_checkAndUpdateGroup_self (hs : s.Named) (b : String) (u uid t : ℤ) :
    ∃ e, (c.checkAndUpdateGroup s b u uid t).entryOf u (getBundleUsageKey b uid) = some e := by
  refine ⟨checkedHistory c s (s.foundHistory b u t uid) t, ?_⟩
  rw [entryOf_eq_historyOf (mem_checkAndUpdateGroup hs b u uid t).1]
  exact (checkAndUpdateGroup_spec hs b u uid t).self

end HistoryState

/-! ### What is reached -/

namespace GroupHandlerState

variable {debug : Bool} {s s' : GroupHandlerState}

/-- What `SendEvent` is called with: the one-time check, and the check of a user's nameless bundle. -/
def Posted (message : EventTask ℤ (Option BundleActiveGroupHandlerObject)) : Prop :=
  message.eventId = msgOneTimeCheckBundleState ∨
    message.eventId = msgCheckDefaultBundleState ∧
      ∃ userId, message.handlerobj = some (userObject userId)

def PostedCheck (message : CheckBundleTask) : Prop :=
  (message.eventId = msgCheckDefaultBundleState ∨
    message.eventId = msgCheckNotificationSeenBundleState ∨
    message.eventId = msgCheckSystemInteractiveBundleState) ∧ message.handlerobj.isSome

structure Inv (s : GroupHandlerState) : Prop where
  named : s.history.Named
  messages : s.handler.All Posted
  handles : s.timers.Handles
  isInited : s.timers.isInited = true
  checks : ∀ task ∈ s.timers.ffrtQueue.waiting, PostedCheck task.payload

theorem named_check (hs : s.history.Named) (c : BundleActiveGroupController) (b : String)
    (u uid t : ℤ) : (c.checkAndUpdateGroup s.history b u uid t).Named :=
  HistoryState.named_apply (c := c) hs (.checkAndUpdateGroup b u uid t)

variable (debug) in
theorem named_checkEach {history : HistoryState} (hs : history.Named) (reading : GroupReading)
    (userId : ℤ) : (checkEachBundleState debug reading history userId).2.Named := by
  unfold checkEachBundleState
  cases reading.applicationInfos userId with
  | none => exact hs
  | some bundles =>
    exact HistoryState.named_apply (c := .init debug) hs
      (.checkEachBundleState userId bundles reading.bootTimeMs)

theorem Inv.processEvent (inv : Inv s) {eventId : ℤ}
    {obj : Option BundleActiveGroupHandlerObject} (hid : eventId ≠ msgCheckIdleState)
    (reading : GroupReading) : Inv (processEvent debug s eventId obj reading) := by
  unfold GroupHandlerState.processEvent
  split_ifs
  · cases obj with
    | none => exact inv
    | some obj =>
      exact { inv with
        named := HistoryState.named_writeBundleUsage (named_check inv.named _ _ _ _ _) _ }
  · refine { inv with named := ?_, messages := inv.messages.removeEvent _ }
    exact List.foldlRecOn (motive := HistoryState.Named) reading.activatedOsAccountIds _ inv.named
      fun history hs userId _ => HistoryState.named_writeBundleUsage (named_checkEach debug hs reading userId) _
  · exact inv

theorem postedCheck_checkMessage (eventId : EventId) (obj : BundleActiveGroupHandlerObject)
    (msgKey : String) : PostedCheck ⟨(checkMessage debug eventId).1, some obj, msgKey⟩ := by
  refine ⟨?_, rfl⟩
  unfold checkMessage
  cases eventId <;> simp

theorem Posted.eventId {message : EventTask ℤ (Option BundleActiveGroupHandlerObject)}
    (h : Posted message) : message.eventId ≠ msgCheckIdleState := by
  rcases h with h | ⟨h, -⟩ <;> rw [h] <;> decide

theorem PostedCheck.eventId {message : CheckBundleTask} (h : PostedCheck message) :
    message.eventId ≠ msgCheckIdleState := by
  rcases h.1 with h | h | h <;> rw [h] <;> decide

theorem posted_userObject (userId delayTime : ℤ) :
    Posted ⟨msgCheckDefaultBundleState, some (userObject userId), delayTime⟩ :=
  .inr ⟨rfl, userId, rfl⟩

theorem getMsgKey_some_ne (eventId delayTime : ℤ) (obj : BundleActiveGroupHandlerObject) :
    getMsgKey eventId (some obj) delayTime ≠ "" := by
  intro h
  have hlength := congrArg String.length h
  simp [getMsgKey] at hlength

theorem Inv.periodCheckBundleState (inv : Inv s) (userId : ℤ) : Inv (s.periodCheckBundleState userId) :=
  { inv with messages := inv.messages.sendEvent (posted_userObject userId fiveSecond) }

theorem Inv.sendCheckBundleMsg (inv : Inv s) {eventId delayTime : ℤ}
    {obj : BundleActiveGroupHandlerObject}
    (hposted : PostedCheck ⟨eventId, some obj, getMsgKey eventId (some obj) delayTime⟩) :
    Inv { s with timers := s.timers.sendCheckBundleMsg eventId (some obj) delayTime } := by
  have hkey := getMsgKey_some_ne eventId delayTime obj
  obtain ⟨handles, hinit, -, -, -⟩ := inv.handles.sendCheckBundleMsg inv.isInited hkey
  refine { inv with handles := handles, isInited := hinit, checks := fun task htask => ?_ }
  rcases CheckBundleTimers.mem_sendCheckBundleMsg htask with htask | hpayload
  · exact inv.checks task htask
  · rw [hpayload]
    exact hposted

theorem inv_apply (inv : Inv s) (op : GroupHandlerOp) (enabled : s.Enabled op) :
    Inv (s.apply debug op) := by
  cases op with
  | reportEvent event t userId installed =>
    have hnamed := HistoryState.named_apply (c := .init debug) inv.named
      (.reportEvent event t userId installed)
    have hreported : Inv { s with
        history := (BundleActiveGroupController.init debug).reportEvent s.history event t userId
          installed } := { inv with named := hnamed }
    simp only [apply, reportEvent]
    split_ifs
    · exact hreported.sendCheckBundleMsg (postedCheck_checkMessage event.eventId _ _)
    · exact hreported
  | setAppGroup b newGroup userId t isFlush installed =>
    exact { inv with
      named := HistoryState.named_apply (c := .init debug) inv.named
        (.setAppGroup b newGroup userId t isFlush installed) }
  | updateBootBasedAndScreenTime on t isShutdown =>
    exact { inv with
      named := HistoryState.named_apply (c := .init debug) inv.named
        (.updateBootBasedAndScreenTime on t isShutdown) }
  | restoreToDatabase userId =>
    exact { inv with named := HistoryState.named_writeBundleUsage inv.named userId }
  | periodCheckBundleState userId => exact inv.periodCheckBundleState userId
  | checkIdleStatsOneTime => exact { inv with messages := inv.messages.sendEvent (.inl rfl) }
  | onUserSwitched userId currentUsedUser reading =>
    have hnamed := HistoryState.named_writeBundleUsage
      (named_checkEach debug inv.named reading currentUsedUser) currentUsedUser
    have hmessages := (((inv.messages.removeEvent msgCheckIdleState).removeEvent
      msgCheckDefaultBundleState).removeEvent msgCheckNotificationSeenBundleState).removeEvent
        msgCheckSystemInteractiveBundleState
    have inv' : Inv { s with history := _, handler := _ } :=
      ⟨hnamed, hmessages, inv.handles, inv.isInited, inv.checks⟩
    exact inv'.periodCheckBundleState userId
  | onUserRemoved userId =>
    exact { inv with named := inv.named, messages := inv.messages.removeEvent _ }
  | onBundleUninstalled userId b uid appIndex =>
    exact { inv with named := HistoryState.named_onBundleUninstalled inv.named userId b uid appIndex }
  | startEvent task reading =>
    obtain ⟨-, -, hdue⟩ := enabled
    exact Inv.processEvent (s := { s with handler := s.handler.start task })
      ⟨inv.named, inv.messages.start hdue.1, inv.handles, inv.isInited, inv.checks⟩
      (inv.messages.waiting task hdue.1).eventId reading
  | finishEvent => exact { inv with messages := inv.messages.finish }
  | startCheck task reading =>
    obtain ⟨-, -, hdue⟩ := enabled
    refine Inv.processEvent (s := { s with timers := s.timers.start task })
      ⟨inv.named, inv.messages, inv.handles.start task, inv.isInited, fun other hother => ?_⟩
      (inv.checks task hdue.1).eventId reading
    exact inv.checks other (TaskPool.mem_take.1 hother).1
  | finishCheck =>
    refine { inv with handles := inv.handles.finish, isInited := ?_, checks := ?_ }
    · exact (CheckBundleTimers.isInited_finish s.timers).trans inv.isInited
    · simp only [apply, CheckBundleTimers.waiting_finish]
      exact inv.checks
  | advance duration =>
    exact { inv with
      messages := ⟨inv.messages.waiting, inv.messages.running⟩
      handles := ⟨inv.handles.old, inv.handles.own⟩ }

theorem inv_steps {Allowed : GroupHandlerOp → Prop} (inv : Inv s) (steps : Steps debug Allowed s s') :
    Inv s' := by
  induction steps with
  | refl => exact inv
  | tail _ step ih =>
    obtain ⟨op, -, enabled, rfl⟩ := step
    exact inv_apply ih op enabled

theorem inv_reached (hs : Reached debug s) : Inv s := by
  obtain ⟨tables, t, steps⟩ := hs
  refine inv_steps (s := { history := .new tables t }) ⟨rfl, ⟨?_, ?_⟩, ⟨?_, ?_⟩, rfl, ?_⟩ steps
  · exact fun task htask => by cases htask
  · exact fun task hnone => by cases hnone
  · exact fun key handle hsome => by simp [CheckBundleTimers.init, CheckBundleTimers.new] at hsome
  · exact fun key handle hsome => by simp [CheckBundleTimers.init, CheckBundleTimers.new] at hsome
  · exact fun task htask => by cases htask

/-! ### The periodic check -/

def mailShown : BundleActiveEvent :=
  { bundleName := "com.example.mail", uid := 20010001, eventId := .abilityForeground }

theorem periodCheck_blind (hs : Reached debug s) :
    (∀ task ∈ s.handler.ffrtQueue.waiting, task.payload.eventId ≠ msgCheckIdleState) ∧
      (∀ task ∈ s.timers.ffrtQueue.waiting, task.payload.eventId ≠ msgCheckIdleState) ∧
      ∀ task ∈ s.handler.ffrtQueue.waiting, task.payload.eventId ≠ msgOneTimeCheckBundleState →
        ∀ reading userId key e, s.history.entryOf userId key = some e →
          key ≠ getBundleUsageKey "" (-1) →
          ∃ e', (s.startEvent debug task reading).history.entryOf userId key = some e' ∧
            e'.currentGroup = e.currentGroup := by
  have inv := inv_reached hs
  refine ⟨fun task htask => (inv.messages.waiting task htask).eventId,
    fun task htask => (inv.checks task htask).eventId,
    fun task htask hone reading userId key e he hkey => ?_⟩
  obtain ⟨hdefault, user, hobj⟩ := (inv.messages.waiting task htask).resolve_left hone
  unfold startEvent processEvent
  rw [if_pos (.inl hdefault), hobj]
  exact HistoryState.entryOf_writeBundleUsage
    (HistoryState.entryOf_checkAndUpdateGroup inv.named "" user (-1) reading.bootTimeMs he hkey) user

/-- An installed bundle is brought to the foreground, and then the periodic check of its user is sent. -/
def periodicallyChecked : GroupHandlerState :=
  (GroupHandlerState.apply false { history := .new {} 1000 } (.reportEvent mailShown 5000 100 true)).apply
    false (.periodCheckBundleState 100)

theorem reached_periodicallyChecked : Reached false periodicallyChecked :=
  ⟨{}, 1000, (Relation.ReflTransGen.single ⟨.reportEvent mailShown 5000 100 true, trivial, trivial,
    rfl⟩).tail ⟨.periodCheckBundleState 100, trivial, trivial, rfl⟩⟩

def periodicTask : DelayedTask (EventTask ℤ (Option BundleActiveGroupHandlerObject)) :=
  ⟨0, ⟨msgCheckDefaultBundleState, some (userObject 100), 5000⟩, 5000000⟩

theorem periodCheck_blind_mail :
    periodicTask ∈ periodicallyChecked.handler.ffrtQueue.waiting ∧
      ∀ reading userId key e, periodicallyChecked.history.entryOf userId key = some e →
        key ≠ getBundleUsageKey "" (-1) →
        ∃ e', (periodicallyChecked.startEvent false periodicTask reading).history.entryOf userId key =
          some e' ∧ e'.currentGroup = e.currentGroup :=
  ⟨by decide, (periodCheck_blind reached_periodicallyChecked).2.2 periodicTask (by decide) (by decide)⟩

/-! ### The check after a use -/

/-- Steps that neither start a check nor post one under its key; users may be switched and removed, and
bundles uninstalled. -/
def Spares (debug : Bool) (task : DelayedTask CheckBundleTask) : GroupHandlerOp → Prop
  | .reportEvent event _ userId isBundleInstalled =>
    isBundleInstalled = true ∧ (eventIdMatchReason event.eventId).isSome = true →
      getMsgKey (checkMessage debug event.eventId).1
        (some { bundleName := event.bundleName, userId := userId, uid := event.uid })
        (checkMessage debug event.eventId).2 ≠ task.payload.msgKey
  | .startCheck other _ => other ≠ task
  | _ => True

theorem timers_processEvent (s : GroupHandlerState) (eventId : ℤ)
    (obj : Option BundleActiveGroupHandlerObject) (reading : GroupReading) :
    (processEvent debug s eventId obj reading).timers = s.timers := by
  unfold processEvent
  split_ifs
  · cases obj <;> rfl
  · rfl
  · cases obj with
    | none => rfl
    | some obj =>
      simp only
      split_ifs <;> rfl
  · rfl

/-- A check waits until it is started or another is posted under its key. -/
theorem waiting_apply (inv : Inv s) {task : DelayedTask CheckBundleTask}
    (htask : task ∈ s.timers.ffrtQueue.waiting) (op : GroupHandlerOp) (enabled : s.Enabled op)
    (spares : Spares debug task op) : task ∈ (s.apply debug op).timers.ffrtQueue.waiting := by
  cases op with
  | reportEvent event t userId installed =>
    have hkey := getMsgKey_some_ne (checkMessage debug event.eventId).1
      (checkMessage debug event.eventId).2
      { bundleName := event.bundleName, userId := userId, uid := event.uid }
    obtain ⟨-, -, -, -, hkept⟩ := inv.handles.sendCheckBundleMsg inv.isInited hkey
    simp only [apply, reportEvent]
    split_ifs with hposts
    · exact hkept task htask (spares hposts).symm
    · exact htask
  | startEvent other reading =>
    simp only [apply, startEvent, timers_processEvent]
    exact htask
  | startCheck other reading =>
    obtain ⟨-, -, hdue⟩ := enabled
    simp only [apply, startCheck, timers_processEvent]
    refine TaskPool.mem_take.2 ⟨htask, fun hhandle => spares ?_⟩
    exact (TaskPool.eq_of_handle htask hdue.1 hhandle).symm
  | finishCheck =>
    simp only [apply, CheckBundleTimers.waiting_finish]
    exact htask
  | _ => exact htask

/-- Nothing but a new use takes the check that follows a use from the queue before it is started, and when
it has run the bundle has an entry, even if the bundle was uninstalled or its user removed meanwhile. -/
theorem check_after_use (hs : Reached debug s) (event : BundleActiveEvent) (t userId : ℤ)
    (hreason : (eventIdMatchReason event.eventId).isSome)
    (task : DelayedTask CheckBundleTask)
    (hposted : task = s.timers.newTask (checkMessage debug event.eventId).1
      (some { bundleName := event.bundleName, userId := userId, uid := event.uid })
      (checkMessage debug event.eventId).2)
    (steps : Steps debug (Spares debug task) (s.apply debug (.reportEvent event t userId true)) s') :
    task ∈ s'.timers.ffrtQueue.waiting ∧ ∀ reading, ∃ e,
      (s'.startCheck debug task reading).history.entryOf userId
        (getBundleUsageKey event.bundleName event.uid) = some e := by
  have inv := inv_reached hs
  have hwaiting : Inv s' ∧ task ∈ s'.timers.ffrtQueue.waiting := by
    induction steps with
    | refl =>
      have hkey := getMsgKey_some_ne (checkMessage debug event.eventId).1
        (checkMessage debug event.eventId).2
        { bundleName := event.bundleName, userId := userId, uid := event.uid }
      obtain ⟨-, -, -, hnew, -⟩ := inv.handles.sendCheckBundleMsg inv.isInited hkey
      refine ⟨inv_apply inv _ trivial, ?_⟩
      simp only [apply, reportEvent]
      rw [if_pos ⟨trivial, hreason⟩, hposted]
      exact hnew
    | tail _ step ih =>
      obtain ⟨op, spares, enabled, rfl⟩ := step
      exact ⟨inv_apply ih.1 op enabled, waiting_apply ih.1 ih.2 op enabled spares⟩
  refine ⟨hwaiting.2, fun reading => ?_⟩
  have hcheck : task.payload.eventId = msgCheckDefaultBundleState ∨
      task.payload.eventId = msgCheckNotificationSeenBundleState ∨
      task.payload.eventId = msgCheckSystemInteractiveBundleState :=
    (hwaiting.1.checks task hwaiting.2).1
  have hobj : task.payload.handlerobj =
      some { bundleName := event.bundleName, userId := userId, uid := event.uid } := by
    rw [hposted]
    rfl
  unfold startCheck processEvent
  rw [if_pos hcheck, hobj]
  obtain ⟨e, he⟩ := HistoryState.entryOf_checkAndUpdateGroup_self (c := .init debug)
    hwaiting.1.named event.bundleName userId event.uid reading.bootTimeMs
  obtain ⟨e', he', -⟩ := HistoryState.entryOf_writeBundleUsage he userId
  exact ⟨e', he'⟩

def mailShownTask : DelayedTask CheckBundleTask :=
  CheckBundleTimers.newTask CheckBundleTimers.new.init msgCheckDefaultBundleState
    (some { bundleName := "com.example.mail", userId := 100, uid := 20010001 }) groupOneHour

def mailStopped : BundleActiveEvent := { mailShown with eventId := .abilityStop }

/-- The bundle is stopped and uninstalled and its user is removed before the check. -/
theorem check_after_use_uninstalled : mailShownTask.dueTime = 3600000000 ∧
    ∃ e, ((((GroupHandlerState.apply false (GroupHandlerState.apply false
      (GroupHandlerState.apply false { history := .new {} 1000 } (.reportEvent mailShown 5000 100 true))
      (.reportEvent mailStopped 5500 100 true))
      (.onBundleUninstalled 100 "com.example.mail" 20010001 0)).apply false (.onUserRemoved 100)).startCheck
        false mailShownTask ⟨3605000, [], fun _ => none⟩).history.entryOf 100
          (getBundleUsageKey "com.example.mail" 20010001)) = some e := by
  refine ⟨by decide +kernel, (check_after_use
    ⟨{}, 1000, .refl⟩ mailShown 5000 100 rfl mailShownTask rfl ?_).2 ⟨3605000, [], fun _ => none⟩⟩
  refine .tail (.tail (.tail .refl ⟨.reportEvent mailStopped 5500 100 true, fun h => ?_, trivial, rfl⟩)
    ⟨.onBundleUninstalled 100 "com.example.mail" 20010001 0, trivial, trivial, rfl⟩)
    ⟨.onUserRemoved 100, trivial, trivial, rfl⟩
  exact absurd h.2 (by decide)

end GroupHandlerState

end DeviceUsageStats
