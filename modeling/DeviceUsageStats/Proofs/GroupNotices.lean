import DeviceUsageStats.Spec.GroupNotices
import DeviceUsageStats.Sanity.Observers
import DeviceUsageStats.Proofs.GroupCallbacks

/-! Who hears of the changes of the groups. A change reaches each observer at most once, the observers hear
of the changes in the order in which they happened, and none is lost while an observer is registered. -/

namespace DeviceUsageStats

/-- The user that the loop has found after the observers of a list. -/
def tokenInfoAfter (kit : AccessTokenKit) (tokenInfo : ℤ) (observers : List (ℕ × IAppGroupCallback)) :
    ℤ :=
  observers.foldl (fun tokenInfo item =>
    if kit.getTokenType item.1 = .tokenHap then (kit.getHapTokenInfo item.1).getD tokenInfo
    else tokenInfo) tokenInfo

/-! ### One change -/

theorem tokenInfoAfter_append (kit : AccessTokenKit) (tokenInfo : ℤ)
    (xs ys : List (ℕ × IAppGroupCallback)) :
    tokenInfoAfter kit tokenInfo (xs ++ ys) =
      tokenInfoAfter kit (tokenInfoAfter kit tokenInfo xs) ys := List.foldl_append ..

theorem notifyObservers_cons (kit : AccessTokenKit) (info : AppGroupCallbackInfo) (tokenInfo : ℤ)
    (x : ℕ × IAppGroupCallback) (xs : List (ℕ × IAppGroupCallback)) :
    notifyObservers kit info tokenInfo (x :: xs) =
      (if kit.getTokenType x.1 = .tokenNative ∨ kit.getTokenType x.1 = .tokenHap ∧
          tokenInfoAfter kit tokenInfo [x] = info.userId then [⟨x.1, x.2, info⟩] else []) ++
        notifyObservers kit info (tokenInfoAfter kit tokenInfo [x]) xs := by
  rw [notifyObservers]
  unfold tokenInfoAfter
  cases htype : kit.getTokenType x.1 with
  | tokenNative => simp [htype]
  | tokenHap =>
    simp only [List.foldl_cons, List.foldl_nil, htype, if_true, reduceCtorEq, false_or, true_and]
    split_ifs <;> rfl
  | tokenInvalid => simp [htype]
  | tokenShell => simp [htype]

theorem notifyObservers_append (kit : AccessTokenKit) (info : AppGroupCallbackInfo) (tokenInfo : ℤ)
    (xs ys : List (ℕ × IAppGroupCallback)) :
    notifyObservers kit info tokenInfo (xs ++ ys) =
      notifyObservers kit info tokenInfo xs ++
        notifyObservers kit info (tokenInfoAfter kit tokenInfo xs) ys := by
  induction xs generalizing tokenInfo with
  | nil => rfl
  | cons x xs ih =>
    rw [List.cons_append, notifyObservers_cons, notifyObservers_cons, ih, List.append_assoc,
      ← tokenInfoAfter_append]
    rfl

theorem notifyObservers_tokens (kit : AccessTokenKit) (info : AppGroupCallbackInfo) (tokenInfo : ℤ)
    (xs : List (ℕ × IAppGroupCallback)) :
    ∀ call ∈ notifyObservers kit info tokenInfo xs, (call.tokenId, call.observer) ∈ xs := by
  induction xs generalizing tokenInfo with
  | nil => simp [notifyObservers]
  | cons x xs ih =>
    intro call hcall
    rw [notifyObservers_cons, List.mem_append] at hcall
    rcases hcall with hcall | hcall
    · split_ifs at hcall
      · rw [List.mem_singleton.1 hcall]
        exact List.mem_cons_self
      · cases hcall
    · exact List.mem_cons_of_mem _ (ih _ call hcall)

def callsTo (t : ℕ) (calls : List AppGroupCall) : List AppGroupCall :=
  calls.filter fun call => call.tokenId = t

@[simp] theorem callsTo_append (t : ℕ) (calls calls' : List AppGroupCall) :
    callsTo t (calls ++ calls') = callsTo t calls ++ callsTo t calls' := List.filter_append ..

theorem callsTo_eq_nil {kit : AccessTokenKit} {info : AppGroupCallbackInfo} {tokenInfo : ℤ} {t : ℕ}
    {xs : List (ℕ × IAppGroupCallback)} (hxs : ∀ x ∈ xs, x.1 ≠ t) :
    callsTo t (notifyObservers kit info tokenInfo xs) = [] := by
  rw [callsTo, List.filter_eq_nil_iff]
  intro call hcall
  simpa using hxs _ (notifyObservers_tokens kit info tokenInfo xs call hcall)

/-- Whether a token hears of a change: a native one always, one of an application if the user that the loop
has found for it is that of the change. -/
def Heard (kit : AccessTokenKit) (observers : List (ℕ × IAppGroupCallback)) (t : ℕ)
    (info : AppGroupCallbackInfo) : Prop :=
  kit.getTokenType t = .tokenNative ∨ kit.getTokenType t = .tokenHap ∧
    tokenInfoAfter kit kit.hapTokenInfo (observers.filter fun x => x.1 ≤ t) = info.userId

instance (kit : AccessTokenKit) (observers : List (ℕ × IAppGroupCallback)) (t : ℕ)
    (info : AppGroupCallbackInfo) : Decidable (Heard kit observers t info) :=
  inferInstanceAs (Decidable (_ ∨ _ ∧ _))

/-- The observers before and behind one of them, in the order of their tokens. -/
theorem observers_split {observers : Std.TreeMap ℕ IAppGroupCallback} {t : ℕ} {o : IAppGroupCallback}
    (ho : observers[t]? = some o) : ∃ before after,
      observers.toList = before ++ (t, o) :: after ∧ (∀ x ∈ before, x.1 < t) ∧ (∀ x ∈ after, t < x.1) ∧
        observers.toList.filter (fun x => x.1 ≤ t) = before ++ [(t, o)] := by
  obtain ⟨before, after, hsplit⟩ :=
    List.append_of_mem (Std.TreeMap.mem_toList_iff_getElem?_eq_some.2 ho)
  have hordered := Std.TreeMap.ordered_keys_toList (t := observers)
  rw [hsplit, List.pairwise_append] at hordered
  obtain ⟨-, hafter, hbefore⟩ := hordered
  have hbefore : ∀ x ∈ before, x.1 < t := fun x hx =>
    compare_lt_iff_lt.1 (hbefore x hx (t, o) List.mem_cons_self)
  have hafter : ∀ x ∈ after, t < x.1 := fun x hx =>
    compare_lt_iff_lt.1 (List.rel_of_pairwise_cons hafter hx)
  refine ⟨before, after, hsplit, hbefore, hafter, ?_⟩
  rw [hsplit, List.filter_append, List.filter_cons_of_pos (by simp),
    List.filter_eq_self.2 fun x hx => by simpa using (hbefore x hx).le,
    List.filter_eq_nil_iff.2 fun x hx => by simpa using hafter x hx]

/-- A change reaches the observer of a token once if it is heard there, and never otherwise. -/
theorem callsTo_notify {registry : ObserverRegistry} {t : ℕ} {o : IAppGroupCallback}
    (ho : registry.groupChangeObservers[t]? = some o) (kit : AccessTokenKit)
    (info : AppGroupCallbackInfo) :
    callsTo t (notifyObservers kit info kit.hapTokenInfo registry.groupChangeObservers.toList) =
      if Heard kit registry.groupChangeObservers.toList t info then [⟨t, o, info⟩] else [] := by
  obtain ⟨before, after, hsplit, hbefore, hafter, hupTo⟩ := observers_split ho
  have hrest : ∀ tokenInfo, callsTo t (notifyObservers kit info tokenInfo after) = [] :=
    fun tokenInfo => callsTo_eq_nil fun x hx => (hafter x hx).ne'
  have hcalls : callsTo t
      (notifyObservers kit info kit.hapTokenInfo registry.groupChangeObservers.toList) =
      callsTo t (notifyObservers kit info (tokenInfoAfter kit kit.hapTokenInfo before)
        ((t, o) :: after)) := by
    rw [hsplit, notifyObservers_append, callsTo_append, callsTo_eq_nil fun x hx => (hbefore x hx).ne,
      List.nil_append]
  have hheard : Heard kit registry.groupChangeObservers.toList t info ↔
      kit.getTokenType t = .tokenNative ∨ kit.getTokenType t = .tokenHap ∧
        tokenInfoAfter kit (tokenInfoAfter kit kit.hapTokenInfo before) [(t, o)] = info.userId := by
    rw [Heard, hupTo, tokenInfoAfter_append]
  rw [hcalls, notifyObservers_cons, callsTo_append, hrest, List.append_nil]
  simp only [hheard]
  split_ifs <;> simp [callsTo]

/-- A kit in which token 1 is native, tokens 2 and 3 are of applications, and token 3 cannot be read. -/
def someKit : AccessTokenKit where
  hapTokenInfo := 0
  getTokenType token := if token = 1 then .tokenNative else .tokenHap
  getHapTokenInfo token := if token = 2 then some 100 else none

def someObservers : ObserverRegistry :=
  (({} : ObserverRegistry).apply (.register 1 (some ⟨some 7⟩))).apply (.register 2 (some ⟨some 8⟩))
    |>.apply (.register 3 (some ⟨some 9⟩))

def someChange : AppGroupCallbackInfo := ⟨100, 20, 10, 0, "com.example.mail"⟩

-- The token that cannot be read hears of the changes of the user of the one before it.
example :
    callsTo 3 (notifyObservers someKit someChange 0 someObservers.groupChangeObservers.toList) =
      [⟨3, ⟨some 9⟩, someChange⟩] := by decide

/-- What the kit alone says about a token and a change, where it can read the token. -/
def hears (kit : AccessTokenKit) (t : ℕ) (info : AppGroupCallbackInfo) : Option Bool :=
  match kit.getTokenType t with
  | .tokenNative => some true
  | .tokenHap => (kit.getHapTokenInfo t).map fun userId => decide (userId = info.userId)
  | _ => some false

theorem heard_iff_of_hears {registry : ObserverRegistry} {t : ℕ} {o : IAppGroupCallback}
    (ho : registry.groupChangeObservers[t]? = some o) {kit : AccessTokenKit}
    {info : AppGroupCallbackInfo} {heard : Bool} (hhears : hears kit t info = some heard) :
    Heard kit registry.groupChangeObservers.toList t info ↔ heard = true := by
  obtain ⟨before, after, -, -, -, hupTo⟩ := observers_split ho
  rw [Heard, hupTo, tokenInfoAfter_append]
  unfold hears at hhears
  cases htype : kit.getTokenType t with
  | tokenNative =>
    rw [htype] at hhears
    cases hhears
    simp
  | tokenHap =>
    rw [htype] at hhears
    obtain ⟨userId, huser, rfl⟩ := Option.map_eq_some_iff.1 hhears
    simp [tokenInfoAfter, htype, huser]
  | tokenInvalid =>
    rw [htype] at hhears
    cases hhears
    simp
  | tokenShell =>
    rw [htype] at hhears
    cases hhears
    simp

namespace GroupNotices

variable {s : GroupNotices} {t : ℕ} {o : IAppGroupCallback} (audience : AppGroupCallbackInfo → Bool)

/-! ### Runs -/

def posted : GroupNoticeOp → List AppGroupCallbackInfo
  | .onAppGroupChanged info true => [info]
  | _ => []

/-- A step that leaves the observer of a token in place and reads the token as before. -/
def Follows (t : ℕ) (o : IAppGroupCallback) (audience : AppGroupCallbackInfo → Bool) :
    GroupNoticeOp → Prop
  | .onAppGroupChanged _ _ => True
  | .runTask kit => ∀ info, hears kit t info = some (audience info)
  | .observers op => ¬ ObserverRegistry.Leaves t o op

theorem delivered_apply (ho : s.registry.groupChangeObservers[t]? = some o) (op : GroupNoticeOp)
    (hop : Follows t o audience op) :
    (s.apply op).registry.groupChangeObservers[t]? = some o ∧
      ∃ done, s.tasks ++ posted op = done ++ (s.apply op).tasks ∧
        callsTo t (s.apply op).calls =
          callsTo t s.calls ++ (done.filter audience).map fun info => ⟨t, o, info⟩ := by
  cases op with
  | onAppGroupChanged info handler =>
    cases handler with
    | true => exact ⟨ho, [], rfl, (List.append_nil _).symm⟩
    | false => exact ⟨ho, [], List.append_nil _, (List.append_nil _).symm⟩
  | runTask kit =>
    unfold apply runTask
    cases htasks : s.tasks with
    | nil => exact ⟨ho, [], by simp [posted, htasks], by simp⟩
    | cons info tasks =>
      refine ⟨ho, [info], List.append_nil _, ?_⟩
      simp only [notifOberserverGroupChanged, callsTo_append, callsTo_notify ho,
        heard_iff_of_hears ho (hop info), List.filter_cons, List.filter_nil]
      cases audience info <;> rfl
  | observers op =>
    exact ⟨ObserverRegistry.observer_apply ho op hop, [], List.append_nil _, (List.append_nil _).symm⟩

theorem run_cons (s : GroupNotices) (op : GroupNoticeOp) (ops : List GroupNoticeOp) :
    s.run (op :: ops) = (s.apply op).run ops := rfl

/-- While an observer is registered it is called with exactly the changes meant for it, once each and in
the order in which they were posted; what is still to come waits in the queue. -/
theorem delivered_run (ho : s.registry.groupChangeObservers[t]? = some o) (ops : List GroupNoticeOp)
    (hops : ∀ op ∈ ops, Follows t o audience op) :
    ∃ done, s.tasks ++ ops.flatMap posted = done ++ (s.run ops).tasks ∧
      callsTo t (s.run ops).calls =
        callsTo t s.calls ++ (done.filter audience).map fun info => ⟨t, o, info⟩ := by
  induction ops generalizing s with
  | nil => exact ⟨[], List.append_nil _, (List.append_nil _).symm⟩
  | cons op ops ih =>
    obtain ⟨ho', done, htasks, hcalls⟩ := delivered_apply audience ho op (hops op List.mem_cons_self)
    obtain ⟨done', htasks', hcalls'⟩ := ih ho' fun op' hop' => hops op' (List.mem_cons_of_mem _ hop')
    rw [run_cons]
    refine ⟨done ++ done', ?_, ?_⟩
    · rw [List.flatMap_cons, ← List.append_assoc, htasks, List.append_assoc, htasks',
        List.append_assoc]
    · rw [hcalls', hcalls, List.filter_append, List.map_append, List.append_assoc]

theorem delivered_run_some :
    ∃ done, [someChange] = done ++
        (run { registry := someObservers } [.onAppGroupChanged someChange true, .runTask someKit]).tasks ∧
      callsTo 2
          (run { registry := someObservers } [.onAppGroupChanged someChange true, .runTask someKit]).calls =
        [] ++ (done.filter fun info => decide (100 = info.userId)).map fun info =>
          ⟨2, ⟨some 8⟩, info⟩ :=
  delivered_run (s := { registry := someObservers }) (o := ⟨some 8⟩) (t := 2)
    (fun info => decide (100 = info.userId)) (by decide)
    [.onAppGroupChanged someChange true, .runTask someKit] (by simp [Follows, hears, someKit])

end GroupNotices

/-! ### The group that an observer knows -/

structure GroupService where
  history : HistoryState
  notices : GroupNotices

inductive GroupServiceOp where
  | call (call : HistoryState.EntryCall)
  | runTask (kit : AccessTokenKit)
  | observers (op : ObserverOp)

namespace GroupService

variable {u uid : ℤ} {b : String} {s : GroupService} {e : BundleActivePackageHistory} {t : ℕ}
  {o : IAppGroupCallback}

/-- The changes that a call reports are handed to the group handler one after another. -/
def apply (u : ℤ) (b : String) (uid : ℤ) (s : GroupService) : GroupServiceOp → GroupService
  | .call call =>
    let history := s.history.call u b uid call
    let changes := history.groupChanges.drop s.history.groupChanges.length
    { history := history
      notices := s.notices.run (changes.map fun info => .onAppGroupChanged info true) }
  | .runTask kit => { s with notices := s.notices.apply (.runTask kit) }
  | .observers op => { s with notices := s.notices.apply (.observers op) }

/-- A step that leaves a native observer in place. -/
def Keeps (t : ℕ) (o : IAppGroupCallback) : GroupServiceOp → Prop
  | .call _ => True
  | .runTask kit => kit.getTokenType t = .tokenNative
  | .observers op => ¬ ObserverRegistry.Leaves t o op

/-- Changes that are handed over wait in the queue; nobody is called for them yet. -/
theorem run_onAppGroupChanged (n : GroupNotices) (changes : List AppGroupCallbackInfo) :
    n.run (changes.map fun info => .onAppGroupChanged info true) =
      { n with tasks := n.tasks ++ changes } := by
  induction changes generalizing n with
  | nil => rw [List.append_nil]; rfl
  | cons info changes ih =>
    rw [List.map_cons, GroupNotices.run_cons, ih]
    simp [GroupNotices.apply, GroupNotices.onAppGroupChanged]

theorem replays_apply (he : s.history.entryOf u (getBundleUsageKey b uid) = some e)
    (ho : s.notices.registry.groupChangeObservers[t]? = some o) {group : ℤ}
    (hgroup : HistoryState.GroupsReplay group s.notices.tasks e.currentGroup) (op : GroupServiceOp)
    (hop : Keeps t o op) :
    ∃ e' received group', (s.apply u b uid op).history.entryOf u (getBundleUsageKey b uid) = some e' ∧
      (s.apply u b uid op).notices.registry.groupChangeObservers[t]? = some o ∧
      callsTo t (s.apply u b uid op).notices.calls =
        callsTo t s.notices.calls ++ received.map (fun info => ⟨t, o, info⟩) ∧
      HistoryState.GroupsReplay group received group' ∧
      HistoryState.GroupsReplay group' (s.apply u b uid op).notices.tasks e'.currentGroup := by
  cases op with
  | call c =>
    obtain ⟨e', changes, he', hlog, hreplay⟩ := HistoryState.callReplays_call he c
    have hchanges : (s.history.call u b uid c).groupChanges.drop s.history.groupChanges.length =
        changes := by rw [hlog, List.drop_left]
    simp only [apply, hchanges, run_onAppGroupChanged]
    exact ⟨e', [], group, he', ho, (List.append_nil _).symm, rfl, hgroup.append hreplay⟩
  | runTask kit =>
    have hnative : kit.getTokenType t = .tokenNative := hop
    obtain ⟨ho', done, htasks, hcalls⟩ := GroupNotices.delivered_apply (fun _ => true) ho
      (.runTask kit) fun info => by simp [hears, hnative]
    have htasks : s.notices.tasks = done ++ (s.notices.apply (.runTask kit)).tasks :=
      (List.append_nil _).symm.trans htasks
    rw [htasks] at hgroup
    obtain ⟨group', hdone, hrest⟩ := hgroup.of_append
    refine ⟨e, done, group', he, ho', ?_, hdone, hrest⟩
    rw [apply, hcalls, List.filter_true]
  | observers op =>
    exact ⟨e, [], group, he, ObserverRegistry.observer_apply ho op hop, (List.append_nil _).symm, rfl,
      hgroup⟩

/-- An observer that knew the group of an entry at a time when no task was waiting can follow it: the
changes it was called with since then lead, with those that still wait, to the group the entry has. -/
theorem replays_run (he : s.history.entryOf u (getBundleUsageKey b uid) = some e)
    (ho : s.notices.registry.groupChangeObservers[t]? = some o) (htasks : s.notices.tasks = [])
    (ops : List GroupServiceOp) (hops : ∀ op ∈ ops, Keeps t o op) :
    ∃ e' received, (ops.foldl (apply u b uid) s).history.entryOf u (getBundleUsageKey b uid) = some e' ∧
      callsTo t (ops.foldl (apply u b uid) s).notices.calls =
        callsTo t s.notices.calls ++ received.map (fun info => ⟨t, o, info⟩) ∧
      HistoryState.GroupsReplay e.currentGroup
        (received ++ (ops.foldl (apply u b uid) s).notices.tasks) e'.currentGroup := by
  obtain ⟨group, hstart, hgroup⟩ : ∃ group, e.currentGroup = group ∧
      HistoryState.GroupsReplay group s.notices.tasks e.currentGroup := by
    rw [htasks]
    exact ⟨_, rfl, rfl⟩
  rw [hstart]
  clear hstart htasks
  induction ops generalizing s e group with
  | nil => exact ⟨e, [], he, (List.append_nil _).symm, hgroup⟩
  | cons op ops ih =>
    obtain ⟨e₁, received, group₁, he₁, ho₁, hcalls, hreceived, hgroup₁⟩ :=
      replays_apply he ho hgroup op (hops op List.mem_cons_self)
    obtain ⟨e', received', he', hcalls', hreplay⟩ :=
      ih he₁ ho₁ (fun op' hop' => hops op' (List.mem_cons_of_mem _ hop')) group₁ hgroup₁
    refine ⟨e', received ++ received', he', ?_, ?_⟩
    · rw [List.foldl_cons, hcalls', hcalls, List.map_append, List.append_assoc]
    · rw [List.append_assoc]
      exact hreceived.append hreplay

/-- The calls on an entry, with one of their changes handed out. -/
def someSteps : List GroupServiceOp :=
  HistoryState.usedAndSet.map GroupServiceOp.call ++ [.runTask someKit]

theorem replays_run_someSteps :
    ∃ e' received,
      (someSteps.foldl (apply 100 "com.example.mail" 20010001)
        ⟨HistoryState.newBundle, { registry := someObservers }⟩).history.entryOf 100
          (getBundleUsageKey "com.example.mail" 20010001) = some e' ∧
      callsTo 1 (someSteps.foldl (apply 100 "com.example.mail" 20010001)
        ⟨HistoryState.newBundle, { registry := someObservers }⟩).notices.calls =
          [] ++ received.map (fun info => ⟨1, ⟨some 7⟩, info⟩) ∧
      HistoryState.GroupsReplay activeGroupNever
        (received ++ (someSteps.foldl (apply 100 "com.example.mail" 20010001)
          ⟨HistoryState.newBundle, { registry := someObservers }⟩).notices.tasks) e'.currentGroup :=
  replays_run (s := ⟨HistoryState.newBundle, { registry := someObservers }⟩)
    (e := HistoryState.newBundle.newUsageHistory "com.example.mail" 1000 20010001)
    (by decide +kernel) (by decide) rfl someSteps (by
      simp [someSteps, Keeps, HistoryState.usedAndSet, someKit])

end GroupService

end DeviceUsageStats
