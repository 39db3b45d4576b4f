import DeviceUsageStats.Proofs.EventOrder
import DeviceUsageStats.Sanity.EventQueries
import DeviceUsageStats.Sanity.Keyed
import Mathlib.Data.Multiset.MapFold

/-! The queries of events before and after a flush. Each answer is made of the rows that the flush would
leave: the stored rows of the range and those of the events in memory, so the flush changes nothing but
the columns that a row does not have. -/

namespace DeviceUsageStats

/-! ### Tallies -/

namespace BundleActiveEventStats

def counts (x : BundleActiveEventStats) : String × EventId × ℤ := (x.name, x.eventId, x.count)

/-- Each name that is counted has an entry with its event id and its count. -/
def Tally (ids : String → EventId) (N : String → ℕ) (m : Std.TreeMap String BundleActiveEventStats) :
    Prop :=
  ∀ k, (m[k]?).map counts = if N k = 0 then none else some (k, ids k, (N k : ℤ))

variable {ids : String → EventId} {N N' : String → ℕ} {m m' : Std.TreeMap String BundleActiveEventStats}

theorem Tally.empty : Tally ids (fun _ => 0) {} := fun k => by simp

theorem Tally.congr (h : Tally ids N m) (hN : ∀ k, N k = N' k) : Tally ids N' m := by
  intro k
  rw [h k, hN k]

theorem Tally.toList_eq (h : Tally ids N m) (h' : Tally ids N m') :
    (m.toList.map Prod.snd).map counts = (m'.toList.map Prod.snd).map counts := by
  have hequiv : (m.map fun _ x => counts x).Equiv (m'.map fun _ x => counts x) := by
    refine Std.TreeMap.Equiv.of_forall_constGet?_eq fun k => ?_
    rw [Std.TreeMap.getElem?_map, Std.TreeMap.getElem?_map, h k, h' k]
  have hlist := congrArg (List.map Prod.snd) hequiv.toList_eq
  simpa [Std.TreeMap.toList_map, List.map_map, Function.comp_def] using hlist

theorem Tally.countEvent (h : Tally ids N m) {first : BundleActiveEventStats}
    (hid : first.eventId = ids first.name) :
    Tally ids (fun k => N k + if first.name = k then 1 else 0) (DatabaseState.countEvent first m) := by
  have hfirst := h first.name
  unfold DatabaseState.countEvent
  intro k
  by_cases hname : first.name = k
  · subst hname
    cases hm : m[first.name]? with
    | none =>
      have hzero : N first.name = 0 := by
        by_contra hne
        rw [hm, if_neg hne] at hfirst
        cases hfirst
      simp [counts, hzero, hid]
    | some x =>
      have hne : N first.name ≠ 0 := fun hzero => by
        rw [hm, if_pos hzero] at hfirst
        cases hfirst
      rw [hm, Option.map_some, if_neg hne, Option.some.injEq, counts, Prod.mk.injEq,
        Prod.mk.injEq] at hfirst
      simp [counts, hfirst.1, hfirst.2.1, hfirst.2.2]
  · have hother : ∀ x : BundleActiveEventStats, (m.insert first.name x)[k]? = m[k]? := fun x => by
      rw [Std.TreeMap.getElem?_insert, if_neg (by simpa using hname)]
    simp only [if_neg hname, Nat.add_zero]
    rw [← h k]
    cases m[first.name]? with
    | none => simp only [hother]
    | some x => simp only [hother]

theorem Tally.foldl_countEvent (h : Tally ids N m) (l : List BundleActiveEventStats)
    (hid : ∀ first ∈ l, first.eventId = ids first.name) :
    Tally ids (fun k => N k + l.countP (·.name = k))
      (l.foldl (fun m first => DatabaseState.countEvent first m) m) := by
  induction l generalizing N m with
  | nil => exact h
  | cons first l ih =>
    have hfirst := h.countEvent (hid first (List.mem_cons_self ..))
    refine (ih hfirst fun x hx => hid x (List.mem_cons_of_mem _ hx)).congr fun k => ?_
    rw [List.countP_cons]
    simp only [decide_eq_true_eq]
    omega

theorem Tally.insertIfNew (h : Tally ids N m) {k₀ : String} (hzero : N k₀ = 0) {c : ℕ} (hc : c ≠ 0) :
    Tally ids (fun k => N k + if k₀ = k then c else 0)
      (m.insertIfNew k₀ { name := k₀, count := c, eventId := ids k₀ }) := by
  have hnone : k₀ ∉ m := by
    have hk₀ := h k₀
    rw [if_pos hzero, Option.map_eq_none_iff] at hk₀
    rw [Std.TreeMap.mem_iff_isSome_getElem?, hk₀]
    simp
  intro k
  rw [Std.TreeMap.getElem?_insertIfNew]
  simp only [Std.LawfulEqCmp.compare_eq_iff_eq]
  by_cases hk : k₀ = k
  · subst hk
    simp [hnone, counts, hzero, hc]
  · simpa [hk] using h k

end BundleActiveEventStats

namespace ServiceState

open DatabaseState (eventLogRow loadedEvent getSystemEventName)
open BundleActiveEventStats (Tally counts)

variable {s : ServiceState} {t b e u : ℤ} {n : String}

/-! ### Answers from rows -/

/-- An event with the columns that an event row has. -/
def storedColumns (event : BundleActiveEvent) : BundleActiveEvent :=
  { bundleName := event.bundleName
    eventId := event.eventId
    timeStamp := event.timeStamp
    abilityId := event.abilityId
    uid := event.uid }

theorem loadedEvent_eventLogRow (stats : BundleActivePeriodStats) (time : ℤ)
    (event : BundleActiveEvent) :
    loadedEvent time (eventLogRow stats time event) = storedColumns event := by
  simp [loadedEvent, eventLogRow, storedColumns]

/-- The stored rows of a range, and those of the events of the range in memory. -/
def rangeRows (s : ServiceState) (t b e u : ℤ) : List EventLogRow :=
  s.storedEvents b e u ++ (cachedEvents (s.currentStats .daily) b e).map
    (eventLogRow (s.currentStats .daily) (parseStartTime t))

/-- Only a range that reaches into the period has events in memory. -/
def CachedInPeriod (s : ServiceState) (b e : ℤ) : Prop :=
  cachedEvents (s.currentStats .daily) b e ≠ [] → (s.currentStats .daily).beginTime < e

theorem CachedInPeriod.cases (h : s.CachedInPeriod b e) (tidy : s.Tidy) :
    ((s.currentStats .daily).endTime ≠ 0 ∧ e > (s.currentStats .daily).beginTime) ∨
      ¬ ((s.currentStats .daily).endTime ≠ 0 ∧ e > (s.currentStats .daily).beginTime) ∧
        cachedEvents (s.currentStats .daily) b e = [] := by
  by_cases hcached : cachedEvents (s.currentStats .daily) b e = []
  · by_cases hguard : (s.currentStats .daily).endTime ≠ 0 ∧ e > (s.currentStats .daily).beginTime
    · exact .inl hguard
    · exact .inr ⟨hguard, hcached⟩
  · exact .inl ⟨(tidy.ends .daily).ne', h hcached⟩

theorem queryDatabaseEvents_perm (name : s.database.eventTableName = some t) (range : b < e) :
    (s.databaseState.queryDatabaseEvents b e u n).Perm
      (((s.storedEvents b e u).filter fun row => n ≠ "" → row.bundleName = n).map
        (loadedEvent (parseStartTime t))) := by
  rw [storedEvents_eq name range]
  unfold DatabaseState.queryDatabaseEvents DatabaseState.judgeQueryCondition
  rw [show s.databaseState.eventTableName = some t from name]
  simp only [if_neg (not_le.2 range)]
  split_ifs with hend
  · exact .nil
  · refine ((List.mergeSort_perm _ _).map _).trans (.of_eq ?_)
    rw [List.filter_filter]
    refine congrArg (List.map _) (List.filter_congr fun row _ => ?_)
    simp [Bool.and_comm]

theorem queryBundleEvents_columns (tidy : s.Tidy) (name : s.database.eventTableName = some t)
    (range : b < e) (cached : s.CachedInPeriod b e) :
    (s.queryBundleEvents b e u n).map (fun events => Multiset.ofList (events.map storedColumns)) =
      if b ≥ (s.currentStats .daily).endTime then .error .timeOutOfRange
      else .ok (Multiset.ofList (((s.rangeRows t b e u).filter fun row =>
        n ≠ "" → row.bundleName = n).map (loadedEvent (parseStartTime t)))) := by
  have hstored : ((s.databaseState.queryDatabaseEvents b e u n).map storedColumns).Perm
      (((s.storedEvents b e u).filter fun row => n ≠ "" → row.bundleName = n).map
        (loadedEvent (parseStartTime t))) := by
    refine ((queryDatabaseEvents_perm name range).map storedColumns).trans (.of_eq ?_)
    rw [List.map_map]
    rfl
  have hcached : ((cachedEvents (s.currentStats .daily) b e).filter fun event =>
      n = "" ∨ event.bundleName = n).map storedColumns =
      (((cachedEvents (s.currentStats .daily) b e).map
        (eventLogRow (s.currentStats .daily) (parseStartTime t))).filter fun row =>
          n ≠ "" → row.bundleName = n).map (loadedEvent (parseStartTime t)) := by
    rw [List.filter_map, List.map_map]
    have hcolumns : loadedEvent (parseStartTime t) ∘
        eventLogRow (s.currentStats .daily) (parseStartTime t) = storedColumns :=
      funext (loadedEvent_eventLogRow _ _)
    rw [hcolumns]
    refine congrArg (List.map _) (List.filter_congr fun event _ => ?_)
    exact decide_eq_decide.2 or_iff_not_imp_left
  unfold queryBundleEvents rangeRows
  simp only [List.filter_append, List.map_append]
  split_ifs with hlate hguard
  · rfl
  · refine congrArg Except.ok (Multiset.coe_eq_coe.2 ?_)
    rw [List.map_append, hcached]
    exact hstored.append_right _
  · obtain hguard' | ⟨-, hnone⟩ := cached.cases tidy
    · exact absurd hguard' hguard
    · refine congrArg Except.ok (Multiset.coe_eq_coe.2 ?_)
      rw [hnone, List.map_nil, List.filter_nil, List.map_nil, List.append_nil]
      exact hstored

def systemEventOf (name : String) : EventId :=
  (systemEvents.find? (getSystemEventName · = name)).getD .defaultEventId

theorem systemEventOf_name : ∀ id ∈ systemEvents, systemEventOf (getSystemEventName id) = id := by
  decide

/-- A system event carries its name, as the core gives it. -/
def SystemNamed (event : BundleActiveEvent) : Prop :=
  event.eventId ∈ systemEvents → event.bundleName = getSystemEventName event.eventId

theorem countP_systemRow_cons (rows : List EventLogRow) {id : EventId} {l : List EventId}
    (hid : id ∉ l) (k : String) :
    (rows.countP fun row => row.eventId ∈ id :: l ∧ getSystemEventName row.eventId = k) =
      (if getSystemEventName id = k then rows.countP (·.eventId = id) else 0) +
        rows.countP fun row => row.eventId ∈ l ∧ getSystemEventName row.eventId = k := by
  induction rows with
  | nil => simp
  | cons row rows ih =>
    simp only [List.countP_cons, ih, decide_eq_true_eq]
    by_cases hrow : row.eventId = id
    · simp only [hrow, List.mem_cons_self, hid, true_and, false_and, if_true, if_false]
      split_ifs <;> omega
    · simp only [hrow, List.mem_cons, false_or, if_false, Nat.add_zero]
      split_ifs <;> omega

theorem tally_foldl_countP (rows : List EventLogRow) (l : List EventId)
    (names : (l.map getSystemEventName).Nodup) (ids : ∀ id ∈ l, id ∈ systemEvents)
    {N : String → ℕ} {m : Std.TreeMap String BundleActiveEventStats} (h : Tally systemEventOf N m)
    (hzero : ∀ id ∈ l, N (getSystemEventName id) = 0) :
    Tally systemEventOf
      (fun k => N k + rows.countP fun row => row.eventId ∈ l ∧ getSystemEventName row.eventId = k)
      (l.foldl (fun m id => if rows.countP (·.eventId = id) = 0 then m
        else m.insertIfNew (getSystemEventName id)
          { name := getSystemEventName id, count := rows.countP (·.eventId = id), eventId := id })
        m) := by
  induction l generalizing N m with
  | nil => exact h.congr fun k => by simp
  | cons id l ih =>
    obtain ⟨hname, names⟩ := List.nodup_cons.1 names
    have hid := systemEventOf_name id (ids id (List.mem_cons_self ..))
    have hfirst : Tally systemEventOf
        (fun k => N k + if getSystemEventName id = k then rows.countP (·.eventId = id) else 0)
        (if rows.countP (·.eventId = id) = 0 then m
          else m.insertIfNew (getSystemEventName id)
            { name := getSystemEventName id, count := rows.countP (·.eventId = id)
              eventId := id }) := by
      split_ifs with hcount
      · refine h.congr fun k => ?_
        rw [hcount, ite_self, Nat.add_zero]
      · have hinsert := h.insertIfNew (hzero id (List.mem_cons_self ..)) hcount
        rwa [hid] at hinsert
    have hother : ∀ id' ∈ l, getSystemEventName id ≠ getSystemEventName id' := fun id' h' heq =>
      hname (heq ▸ List.mem_map_of_mem h')
    refine (ih names (fun id' h' => ids id' (List.mem_cons_of_mem _ h')) hfirst fun id' h' => ?_).congr
      fun k => ?_
    · rw [hzero id' (List.mem_cons_of_mem _ h'), if_neg (hother id' h')]
    · -- a row is of the first event or of one of the others
      have hnot : id ∉ l := fun hmem => hother id hmem rfl
      rw [countP_systemRow_cons rows hnot, Nat.add_assoc]

theorem queryDeviceEventStats_eq (name : s.database.eventTableName = some t) (range : b < e)
    (id : EventId) (m : Std.TreeMap String BundleActiveEventStats) :
    s.databaseState.queryDeviceEventStats id b e m u =
      if (s.storedEvents b e u).countP (·.eventId = id) = 0 then m
      else m.insertIfNew (getSystemEventName id)
        { name := getSystemEventName id, count := (s.storedEvents b e u).countP (·.eventId = id)
          eventId := id } := by
  rw [storedEvents_eq name range]
  unfold DatabaseState.queryDeviceEventStats DatabaseState.judgeQueryCondition
  rw [show s.databaseState.eventTableName = some t from name]
  simp only [if_neg (not_le.2 range)]
  by_cases hend : e < parseStartTime t
  · simp [hend]
  · simp only [if_neg hend, List.countP_filter]
    have hcount : ((s.files.eventTables.rows t).countP fun row => decide
          (DatabaseState.eventCondition b e (parseStartTime t) u row = true ∧ row.eventId = id)) =
        (s.files.eventTables.rows t).countP fun row => decide (row.eventId = id) &&
          DatabaseState.eventCondition b e (parseStartTime t) u row :=
      List.countP_congr fun row _ => by simp [and_comm]
    rw [← hcount]
    rfl

theorem tally_queryDeviceEventStats (tidy : s.Tidy) (name : s.database.eventTableName = some t)
    (range : b < e) (cached : s.CachedInPeriod b e)
    (named : ∀ event ∈ (s.currentStats .daily).events.events, SystemNamed event) :
    ∃ m, Tally systemEventOf (fun k => (s.rangeRows t b e u).countP fun row =>
        row.eventId ∈ systemEvents ∧ getSystemEventName row.eventId = k) m ∧
      s.queryDeviceEventStats b e u =
        if b ≥ (s.currentStats .daily).endTime then .error .timeOperationFailed
        else .ok (m.toList.map Prod.snd) := by
  set stored := systemEvents.foldl (fun m id =>
    s.databaseState.queryDeviceEventStats id b e m u) {} with hstored
  have htally : Tally systemEventOf (fun k => (s.storedEvents b e u).countP fun row =>
      row.eventId ∈ systemEvents ∧ getSystemEventName row.eventId = k) stored := by
    have hrows := tally_foldl_countP (s.storedEvents b e u) systemEvents (by decide) (fun _ h => h)
      Tally.empty fun _ _ => rfl
    rw [hstored]
    simp only [queryDeviceEventStats_eq name range]
    exact hrows.congr fun k => Nat.zero_add _
  have hcached : Tally systemEventOf (fun k => (s.rangeRows t b e u).countP fun row =>
      row.eventId ∈ systemEvents ∧ getSystemEventName row.eventId = k)
      (getCachedSystemEvents (s.currentStats .daily) b e stored) := by
    have hnamed : ∀ event ∈ (cachedEvents (s.currentStats .daily) b e).filter
        (fun event => event.eventId ∈ systemEvents),
        event.bundleName = getSystemEventName event.eventId ∧ event.eventId ∈ systemEvents := by
      intro event hevent
      obtain ⟨hevent, hid⟩ := List.mem_filter.1 hevent
      have hid := of_decide_eq_true hid
      exact ⟨named event (mem_cachedEvents.1 hevent).1 hid, hid⟩
    have hfold := htally.foldl_countEvent (((cachedEvents (s.currentStats .daily) b e).filter
      fun event => event.eventId ∈ systemEvents).map fun event =>
        { name := event.bundleName, eventId := event.eventId }) fun first hfirst => by
          obtain ⟨event, hevent, rfl⟩ := List.mem_map.1 hfirst
          obtain ⟨hname, hid⟩ := hnamed event hevent
          rw [hname, systemEventOf_name _ hid]
    rw [List.foldl_map] at hfold
    refine hfold.congr fun k => ?_
    rw [rangeRows, List.countP_append, List.countP_map, List.countP_map, List.countP_filter]
    congr 1
    refine List.countP_congr fun event hevent => ?_
    simp only [Function.comp_apply, Bool.and_eq_true, decide_eq_true_eq]
    constructor
    · rintro ⟨hk, hid⟩
      have hname := (hnamed event (List.mem_filter.2 ⟨hevent, decide_eq_true hid⟩)).1
      exact ⟨hid, hname.symm.trans hk⟩
    · rintro ⟨hid, hk⟩
      have hname := (hnamed event (List.mem_filter.2 ⟨hevent, decide_eq_true hid⟩)).1
      exact ⟨hname.trans hk, hid⟩
  unfold queryDeviceEventStats
  simp only
  obtain hguard | ⟨hguard, hnone⟩ := cached.cases tidy
  · refine ⟨_, hcached, ?_⟩
    rw [if_pos hguard]
  · refine ⟨stored, ?_, ?_⟩
    · rwa [getCachedSystemEvents, hnone, List.filter_nil, List.foldl_nil] at hcached
    · rw [if_neg hguard]

theorem queryNotificationEventStats_eq (name : s.database.eventTableName = some t)
    (range : b < e) (id : EventId) (m : Std.TreeMap String BundleActiveEventStats) :
    s.databaseState.queryNotificationEventStats id b e m u =
      ((s.storedEvents b e u).filter (·.eventId = id)).foldl (fun stats row =>
        DatabaseState.countEvent { name := row.bundleName, eventId := row.eventId, uid := row.uid }
          stats) m := by
  rw [storedEvents_eq name range]
  unfold DatabaseState.queryNotificationEventStats DatabaseState.judgeQueryCondition
  rw [show s.databaseState.eventTableName = some t from name]
  simp only [if_neg (not_le.2 range)]
  by_cases hend : e < parseStartTime t
  · simp [hend]
  · simp only [if_neg hend, List.filter_filter]
    have hrows : ((s.files.eventTables.rows t).filter fun row => decide
          (DatabaseState.eventCondition b e (parseStartTime t) u row = true ∧ row.eventId = id)) =
        (s.files.eventTables.rows t).filter fun row => decide (row.eventId = id) &&
          DatabaseState.eventCondition b e (parseStartTime t) u row :=
      List.filter_congr fun row _ => by simp [Bool.and_comm]
    rw [← hrows]
    rfl

theorem tally_queryNotificationEventStats (tidy : s.Tidy)
    (name : s.database.eventTableName = some t) (range : b < e) (cached : s.CachedInPeriod b e) :
    ∃ m, Tally (fun _ => .notificationSeen) (fun k => (s.rangeRows t b e u).countP fun row =>
        row.eventId = .notificationSeen ∧ row.bundleName = k) m ∧
      s.queryNotificationEventStats b e u =
        if b ≥ (s.currentStats .daily).endTime then .error .timeOperationFailed
        else .ok (m.toList.map Prod.snd) := by
  set stored := s.databaseState.queryNotificationEventStats .notificationSeen b e {} u with hstored
  have htally : Tally (fun _ => .notificationSeen) (fun k => (s.storedEvents b e u).countP fun row =>
      row.eventId = .notificationSeen ∧ row.bundleName = k) stored := by
    have hempty : Tally (fun _ => .notificationSeen) (fun _ => 0) {} := .empty
    have hfold := hempty.foldl_countEvent
      (((s.storedEvents b e u).filter (·.eventId = .notificationSeen)).map fun row =>
        { name := row.bundleName, eventId := row.eventId, uid := row.uid }) fun first hfirst => by
          obtain ⟨row, hrow, rfl⟩ := List.mem_map.1 hfirst
          exact of_decide_eq_true (List.mem_filter.1 hrow).2
    rw [List.foldl_map, ← queryNotificationEventStats_eq name range] at hfold
    refine hfold.congr fun k => ?_
    rw [Nat.zero_add, List.countP_map, List.countP_filter]
    exact List.countP_congr fun row _ => by simp [and_comm]
  have hcached : Tally (fun _ => .notificationSeen) (fun k => (s.rangeRows t b e u).countP fun row =>
      row.eventId = .notificationSeen ∧ row.bundleName = k)
      (getCachedNotificationEvents (s.currentStats .daily) b e stored) := by
    have hfold := htally.foldl_countEvent (((cachedEvents (s.currentStats .daily) b e).filter
      fun event => event.eventId = .notificationSeen).map fun event =>
        { name := event.bundleName, eventId := .notificationSeen }) fun first hfirst => by
          obtain ⟨event, -, rfl⟩ := List.mem_map.1 hfirst
          rfl
    rw [List.foldl_map] at hfold
    refine hfold.congr fun k => ?_
    rw [rangeRows, List.countP_append, List.countP_map, List.countP_map, List.countP_filter]
    congr 1
    refine List.countP_congr fun event _ => ?_
    simp only [Function.comp_apply, Bool.and_eq_true, decide_eq_true_eq]
    exact and_comm
  unfold queryNotificationEventStats
  simp only
  obtain hguard | ⟨hguard, hnone⟩ := cached.cases tidy
  · refine ⟨_, hcached, ?_⟩
    rw [if_pos hguard]
  · refine ⟨stored, ?_, ?_⟩
    · rwa [getCachedNotificationEvents, hnone, List.filter_nil, List.foldl_nil] at hcached
    · rw [if_neg hguard]

/-! ### Flushes -/

/-- The answers for the own user, up to the columns of the events and the uids of the counts. -/
structure SameAnswers (s s' : ServiceState) (b e : ℤ) : Prop where
  events : ∀ n, (s'.queryBundleEvents b e s.userId n).map
      (fun events => Multiset.ofList (events.map storedColumns)) =
    (s.queryBundleEvents b e s.userId n).map fun events => Multiset.ofList (events.map storedColumns)
  deviceEvents : (s'.queryDeviceEventStats b e s.userId).map (·.map counts) =
    (s.queryDeviceEventStats b e s.userId).map (·.map counts)
  notifications : (s'.queryNotificationEventStats b e s.userId).map (·.map counts) =
    (s.queryNotificationEventStats b e s.userId).map (·.map counts)

theorem sameAnswers_of_rangeRows {s' : ServiceState} {b e : ℤ} (range : b < e)
    (tidy : s.Tidy) (name : s.database.eventTableName = some t) (cached : s.CachedInPeriod b e)
    (named : ∀ event ∈ (s.currentStats .daily).events.events, SystemNamed event)
    (tidy' : s'.Tidy) (name' : s'.database.eventTableName = some t)
    (cached' : s'.CachedInPeriod b e)
    (named' : ∀ event ∈ (s'.currentStats .daily).events.events, SystemNamed event)
    (rows : s'.rangeRows t b e s.userId = s.rangeRows t b e s.userId)
    (ends : (s'.currentStats .daily).endTime = (s.currentStats .daily).endTime) :
    SameAnswers s s' b e where
  events n := by
    rw [queryBundleEvents_columns tidy' name' range cached',
      queryBundleEvents_columns tidy name range cached, rows, ends]
  deviceEvents := by
    obtain ⟨m, hm, hanswer⟩ := tally_queryDeviceEventStats (u := s.userId) tidy name range cached named
    obtain ⟨m', hm', hanswer'⟩ :=
      tally_queryDeviceEventStats (u := s.userId) tidy' name' range cached' named'
    rw [rows] at hm'
    rw [hanswer, hanswer', ends]
    split_ifs
    · rfl
    · exact congrArg Except.ok (hm'.toList_eq hm)
  notifications := by
    obtain ⟨m, hm, hanswer⟩ := tally_queryNotificationEventStats (u := s.userId) tidy name range cached
    obtain ⟨m', hm', hanswer'⟩ :=
      tally_queryNotificationEventStats (u := s.userId) tidy' name' range cached'
    rw [rows] at hm'
    rw [hanswer, hanswer', ends]
    split_ifs
    · rfl
    · exact congrArg Except.ok (hm'.toList_eq hm)

variable (tz : TimeZone)

def ReportedBy (op : ServiceOp) (event : BundleActiveEvent) : Prop :=
  match op with
  | .reportEvent reported => event = reported
  | .reportForShutdown reported => event = reported
  | _ => False

theorem mem_events_renewIfExpired {event : BundleActiveEvent} {time : ℤ}
    (h : event ∈ ((s.renewIfExpired tz time).currentStats .daily).events.events) :
    event ∈ (s.currentStats .daily).events.events := by
  unfold renewIfExpired at h
  split_ifs at h
  · rw [events_renewStatsInMemory] at h
    cases h
  · exact h

theorem mem_events_restoreStats {event : BundleActiveEvent} {forced : Bool}
    (h : event ∈ ((s.restoreStats forced).currentStats .daily).events.events) :
    event ∈ (s.currentStats .daily).events.events := by
  by_cases hflush : s.statsChanged ∨ forced
  · rw [events_restoreStats_of_flush hflush] at h
    cases h
  · unfold restoreStats at h
    rwa [if_neg hflush] at h

theorem mem_events_apply {op : ServiceOp} {event : BundleActiveEvent}
    (h : event ∈ ((s.apply tz op).currentStats .daily).events.events) :
    ReportedBy op event ∨ event ∈ (s.currentStats .daily).events.events := by
  cases op with
  | reportEvent reported =>
    change event ∈ ((s.reportEvent tz reported).currentStats .daily).events.events at h
    rw [(sameEvents_reportEvent tz s reported).events] at h
    split_ifs at h
    · exact (mem_events_addDailyEvent.1 h).imp id (mem_events_renewIfExpired tz)
    · exact .inr (mem_events_renewIfExpired tz h)
  | reportForShutdown reported =>
    change event ∈ ((s.reportForShutdown tz reported).currentStats .daily).events.events at h
    by_cases hid : reported.eventId = .shutdown
    · rw [(sameEvents_reportForShutdown tz s hid).events] at h
      exact mem_events_addDailyEvent.1 (mem_events_renewIfExpired tz h)
    · rw [reportForShutdown_of_ne tz s hid] at h
      exact .inr h
  | reportModuleEvent reported => exact .inr ((sameEvents_reportModuleEvent s reported).events ▸ h)
  | reportFormEvent reported => exact .inr ((sameEvents_reportFormEvent s reported).events ▸ h)
  | restoreStats forced => exact .inr (mem_events_restoreStats h)
  | handleTimeChange t t' =>
    change event ∈ ((BundleActiveCore.handleTimeChange tz t t' s).currentStats
      .daily).events.events at h
    rw [events_handleTimeChange] at h
    cases h
  | deleteUninstalledBundleStats b uid appIndex =>
    exact .inr (events_deleteUninstalledBundleStats s b uid appIndex h)
  | deleteExcessiveEventTableData days =>
    refine .inr ?_
    change event ∈ ((s.deleteExcessiveEventTableData days).currentStats .daily).events.events at h
    unfold deleteExcessiveEventTableData at h
    split_ifs at h <;> exact h
  | queryBundleStatsInfos k b e userId n =>
    exact .inr ((sameEvents_queryBundleStatsInfos s k b e userId n).events ▸ h)
  | otherServices p => exact .inr h

/-- The system events that are reported carry their names. -/
def NamesSystemEvents (_ : ServiceState) (op : ServiceOp) : Prop :=
  ∀ event, ReportedBy op event → SystemNamed event

theorem systemNamed_run (run : Run tz NamesSystemEvents s) :
    ∀ event ∈ (s.currentStats .daily).events.events, SystemNamed event := by
  induction run with
  | init p userId debug time _ =>
    intro event h
    have hloaded := events_forcedLoad tz (openDatabase p userId debug time) time false .daily
    rcases mem_events_addDailyEvent.1 h with rfl | h
    · exact fun hid => absurd hid (by simp [systemEvents])
    · rw [hloaded] at h
      cases h
  | step op _ _ named ih =>
    intro event h
    exact (mem_events_apply tz h).elim (named event) (ih event)

/-- Every event in memory that is in a range is not before the event table, and in memory for ranges
that reach into the period only. -/
def RangeInTable (s : ServiceState) (t b e : ℤ) : Prop :=
  ∀ event ∈ (s.currentStats .daily).events.events, b ≤ event.timeStamp → event.timeStamp ≤ e →
    parseStartTime t ≤ event.timeStamp ∧ (s.currentStats .daily).beginTime < e

/-- A flush does not change the answers. -/
theorem sameAnswers_restoreStats (run : Run tz NamesSystemEvents s)
    (name : s.database.eventTableName = some t) (table : t ∈ s.files.eventTables) (range : b < e)
    (retained : s.RangeRetained b) (inTable : s.RangeInTable t b e) (forced : Bool) :
    SameAnswers s (s.restoreStats forced) b e := by
  have htidy := tidy_run tz run
  have hnamed := systemNamed_run tz run
  by_cases hflush : s.statsChanged ∨ forced
  · have hnone := events_restoreStats_of_flush (s := s) hflush
    have hcached : cachedEvents ((s.restoreStats forced).currentStats .daily) b e = [] := by
      rw [cachedEvents_eq, hnone, List.filter_nil]
    obtain ⟨events, hstats⟩ := currentStats_restoreStats s forced .daily
    have hrows := storedEvents_restoreStats htidy ((owned_run tz run).users .daily) name table hflush
      range retained fun event hevent hlow hhigh => (inTable event hevent hlow hhigh).1
    refine sameAnswers_of_rangeRows range htidy name (fun hne => ?_) hnamed (htidy.restoreStats forced)
      (eventRows_restoreStats htidy.arrays name table (retained.retained (e := e) (u := s.userId)) hflush).1
      (fun hne => absurd hcached hne) (fun event h => ?_) ?_ (by rw [hstats])
    · obtain ⟨event, hevent⟩ := List.exists_mem_of_ne_nil _ hne
      obtain ⟨hevent, hlow, hhigh⟩ := mem_cachedEvents.1 hevent
      exact (inTable event hevent hlow hhigh).2
    · rw [hnone] at h
      cases h
    · rw [rangeRows, hcached, List.map_nil, List.append_nil, hrows, rangeRows]
  · unfold restoreStats
    rw [if_neg hflush]
    exact ⟨fun _ => rfl, rfl, rfl⟩

instance (s : ServiceState) (b : ℤ) : Decidable (s.RangeRetained b) :=
  inferInstanceAs (Decidable (_ ∨ _))

instance (s : ServiceState) (t b e : ℤ) : Decidable (s.RangeInTable t b e) :=
  inferInstanceAs (Decidable (∀ event ∈ (s.currentStats .daily).events.events, b ≤ event.timeStamp →
    event.timeStamp ≤ e → parseStartTime t ≤ event.timeStamp ∧ (s.currentStats .daily).beginTime < e))

def moduleEvent : BundleActiveEvent :=
  { bundleName := "com.example.mail", abilityId := "1", moduleName := "entry"
    eventId := .abilityForeground, timeStamp := 1709280001000, uid := 20010001 }

def moduleShown : ServiceState :=
  (init utc {} 100 false 1709280000000).apply utc (.reportEvent moduleEvent)

theorem run_moduleShown : Run utc NamesSystemEvents moduleShown := by
  refine .step _ (.init {} 100 false 1709280000000 (by decide)) (by decide) fun event h => ?_
  obtain rfl : event = moduleEvent := h
  exact fun hid => absurd hid (by decide)

theorem sameAnswers_moduleShown :
    SameAnswers moduleShown (moduleShown.restoreStats true) 1709280000000 1709280002000 :=
  sameAnswers_restoreStats (t := 1709280000000) utc run_moduleShown (by decide +kernel)
    (by decide +kernel) (by decide) (by decide +kernel) (by decide +kernel) true

/-- The event table has no column for the module. -/
theorem column_lost_moduleShown :
    Run utc (fun _ _ => True) moduleShown ∧ ∃ events events',
      moduleShown.queryBundleEvents 1709280000000 1709280002000 100 "" = .ok events ∧
      (moduleShown.restoreStats true).queryBundleEvents 1709280000000 1709280002000 100 "" =
        .ok events' ∧ ¬ events.Perm events' := by
  refine ⟨.step _ (.init {} 100 false 1709280000000 (by decide)) (by decide) trivial,
    [moduleEvent], [{ moduleEvent with moduleName := "" }], by decide +kernel, by decide +kernel, ?_⟩
  rw [List.singleton_perm_singleton]
  decide

end ServiceState

end DeviceUsageStats
