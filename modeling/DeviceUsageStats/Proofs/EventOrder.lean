import DeviceUsageStats.Proofs.UninstallFrame
import DeviceUsageStats.Sanity.SaveAndLoad

/-! The order of the events that a query returns. The rows of the event table and the events in memory are
sorted each for itself and concatenated, so the whole is in order exactly if no stored event is after one
in memory; reports that never fall behind what is stored keep that. -/

namespace DeviceUsageStats

namespace BundleActivePeriodStats

theorem events_extendEndTime (p : BundleActivePeriodStats) (t : ℤ) :
    (p.extendEndTime t).events = p.events := by
  unfold extendEndTime
  split_ifs <;> rfl

theorem events_update (p : BundleActivePeriodStats) (uids : PackageContainUidMap) (b n : String)
    (t : ℤ) (e : EventId) (a : String) (uid : ℤ) :
    (p.update uids b n t e a uid).1.events = p.events := by
  unfold update
  split_ifs <;> exact events_extendEndTime _ t

end BundleActivePeriodStats

namespace ServiceState

variable {s s' s'' : ServiceState}

/-- The events of a user in the order of their time stamps. -/
def Chronological (events : List BundleActiveEvent) : Prop :=
  events.Pairwise fun e f => e.timeStamp ≤ f.timeStamp

/-- No stored event of the user, among those that a query can return, is after the time stamp. -/
def StoredBefore (s : ServiceState) (timeStamp : ℤ) : Prop :=
  ∀ t, s.database.eventTableName = some t → ∀ row ∈ s.files.eventTables.rows t,
    row.userId = s.userId → 0 ≤ row.timeStamp → row.timeStamp + parseStartTime t ≤ timeStamp

def EventsOrdered (s : ServiceState) : Prop :=
  ∀ event ∈ (s.currentStats .daily).events.events, s.StoredBefore event.timeStamp

instance (s : ServiceState) (timeStamp : ℤ) : Decidable (s.StoredBefore timeStamp) :=
  inferInstanceAs (Decidable (∀ t ∈ s.database.eventTableName, ∀ row ∈ s.files.eventTables.rows t,
    row.userId = s.userId → 0 ≤ row.timeStamp → row.timeStamp + parseStartTime t ≤ timeStamp))

instance (s : ServiceState) : Decidable s.EventsOrdered :=
  inferInstanceAs (Decidable (∀ event ∈ (s.currentStats .daily).events.events,
    s.StoredBefore event.timeStamp))

/-! ### Queries -/

theorem chronological_queryDatabaseEvents (d : DatabaseState) (b e u : ℤ) (n : String) :
    Chronological (d.queryDatabaseEvents b e u n) := by
  unfold DatabaseState.queryDatabaseEvents
  split
  · exact .nil
  · simp only
    refine List.pairwise_map.2 (List.Pairwise.imp ?_ (@List.pairwise_mergeSort _
      (fun row row' : EventLogRow => decide (row.timeStamp ≤ row'.timeStamp)) ?_ ?_ _))
    · intro row row' h
      simpa [DatabaseState.loadedEvent] using h
    · intro a b c hab hbc
      simp only [decide_eq_true_eq] at hab hbc ⊢
      exact hab.trans hbc
    · intro a b
      simpa using le_total a.timeStamp b.timeStamp

theorem mem_queryDatabaseEvents {d : DatabaseState} {b e u : ℤ} {n : String}
    {event : BundleActiveEvent} (h : event ∈ d.queryDatabaseEvents b e u n) :
    ∃ t, d.eventTableName = some t ∧ ∃ row ∈ d.eventTables.rows t, row.userId = u ∧
      0 ≤ row.timeStamp ∧ row.timeStamp + parseStartTime t = event.timeStamp := by
  unfold DatabaseState.queryDatabaseEvents DatabaseState.judgeQueryCondition at h
  cases hname : d.eventTableName with
  | none => simp [hname] at h
  | some t =>
    simp only [hname] at h
    split_ifs at h
    · cases h
    · cases h
    · obtain ⟨row, hrow, rfl⟩ := List.mem_map.1 h
      obtain ⟨hrow, hmatch⟩ := List.mem_filter.1 (List.mem_mergeSort.1 hrow)
      simp only [DatabaseState.eventCondition, decide_eq_true_eq] at hmatch
      obtain ⟨⟨hlow, -, huser⟩, -⟩ := hmatch
      refine ⟨t, rfl, row, hrow, huser, ?_, rfl⟩
      split_ifs at hlow <;> omega

theorem chronological_cachedEvents (stats : BundleActivePeriodStats) (b e : ℤ) :
    Chronological (cachedEvents stats b e) :=
  (stats.events.sorted.drop).filter _

theorem mem_cachedEvents {stats : BundleActivePeriodStats} {b e : ℤ} {event : BundleActiveEvent} :
    event ∈ cachedEvents stats b e ↔
      event ∈ stats.events.events ∧ b ≤ event.timeStamp ∧ event.timeStamp ≤ e := by
  have hdrop := Bisection.drop_rank_map stats.events.stamps_sorted b
  unfold cachedEvents
  rw [BundleActiveEventList.findBestIndex_eq_rank, Int.toNat_natCast, BundleActiveEventList.stamps,
    hdrop, List.mem_filter, List.mem_filter, decide_eq_true_eq, decide_eq_true_eq, and_assoc]

theorem EventsOrdered.chronological (h : s.EventsOrdered) {b e : ℤ} {n : String}
    {events : List BundleActiveEvent} (accepted : s.queryBundleEvents b e s.userId n = .ok events) :
    Chronological events := by
  have hstored := chronological_queryDatabaseEvents s.databaseState b e s.userId n
  unfold queryBundleEvents at accepted
  simp only at accepted
  split_ifs at accepted with hlate hmemory
  · obtain rfl := Except.ok.inj accepted
    refine List.pairwise_append.2 ⟨hstored, (chronological_cachedEvents _ b e).filter _, ?_⟩
    intro old hold new hnew
    obtain ⟨t, hname, row, hrow, huser, hpos, htime⟩ := mem_queryDatabaseEvents hold
    rw [← htime]
    exact h new (mem_cachedEvents.1 (List.mem_filter.1 hnew).1).1 t hname row hrow huser hpos
  · obtain rfl := Except.ok.inj accepted
    exact hstored

theorem EventsOrdered.of_chronological (hend : 0 < (s.currentStats .daily).endTime)
    (h : ∀ b e events, s.queryBundleEvents b e s.userId "" = .ok events → Chronological events) :
    s.EventsOrdered := by
  intro event hevent t hname row hrow huser hpos
  by_contra hlt
  set time := row.timeStamp + parseStartTime t with htime
  set b := min event.timeStamp ((s.currentStats .daily).endTime - 1) with hb
  set e := max time ((s.currentStats .daily).beginTime + 1) with he
  have hsign : 0 ≤ parseStartTime t := abs_nonneg t
  have hbe : ¬ e ≤ b := by omega
  have hstored : DatabaseState.loadedEvent (parseStartTime t) row ∈
      s.databaseState.queryDatabaseEvents b e s.userId "" := by
    unfold DatabaseState.queryDatabaseEvents DatabaseState.judgeQueryCondition
    rw [show s.databaseState.eventTableName = some t from hname]
    simp only [if_neg hbe, if_neg (show ¬ e < parseStartTime t by omega)]
    refine List.mem_map_of_mem (List.mem_mergeSort.2 (List.mem_filter.2 ⟨hrow, ?_⟩))
    have hlow : (if b - parseStartTime t ≥ 0 then b - parseStartTime t else 0) ≤ row.timeStamp := by
      split_ifs <;> omega
    have hhigh : row.timeStamp ≤ e - parseStartTime t := by omega
    exact decide_eq_true ⟨decide_eq_true ⟨hlow, hhigh, huser⟩, fun hne => absurd rfl hne⟩
  have hcached : event ∈ (cachedEvents (s.currentStats .daily) b e).filter fun event =>
      "" = "" ∨ event.bundleName = "" :=
    List.mem_filter.2 ⟨mem_cachedEvents.2 ⟨hevent, by omega, by omega⟩, by simp⟩
  have hanswer := h b e (s.databaseState.queryDatabaseEvents b e s.userId "" ++
    (cachedEvents (s.currentStats .daily) b e).filter fun event =>
      "" = "" ∨ event.bundleName = "") (by
    unfold queryBundleEvents
    simp only
    rw [if_neg (by omega), if_pos ⟨hend.ne', by omega⟩])
  exact hlt ((List.pairwise_append.1 hanswer).2.2 _ hstored event hcached)

theorem Chronological.deleteOutOfLimitEvents {events : List BundleActiveEvent}
    (h : Chronological events) (maxNum : ℕ) :
    ∃ dropped, events = dropped ++ deleteOutOfLimitEvents events maxNum ∧
      (ServiceState.deleteOutOfLimitEvents events maxNum).length = min maxNum events.length ∧
      ∀ old ∈ dropped, ∀ kept ∈ ServiceState.deleteOutOfLimitEvents events maxNum,
        old.timeStamp ≤ kept.timeStamp := by
  unfold ServiceState.deleteOutOfLimitEvents
  split_ifs with hlong
  · refine ⟨events.take (events.length - maxNum), (List.take_append_drop ..).symm, ?_, ?_⟩
    · rw [List.length_drop]
      omega
    · rw [← List.take_append_drop (events.length - maxNum) events] at h
      exact (List.pairwise_append.1 h).2.2
  · exact ⟨[], rfl, by omega, fun _ hold => (by cases hold)⟩

/-! ### Steps -/

/-- The events of the user in memory and in the database are the same. -/
structure SameEvents (s s' : ServiceState) : Prop where
  database : s'.database = s.database
  files : s'.files = s.files
  userId : s'.userId = s.userId
  events : (s'.currentStats .daily).events = (s.currentStats .daily).events

theorem SameEvents.refl (s : ServiceState) : SameEvents s s := ⟨rfl, rfl, rfl, rfl⟩

theorem SameEvents.trans (h : SameEvents s s') (h' : SameEvents s' s'') : SameEvents s s'' :=
  ⟨h'.database.trans h.database, h'.files.trans h.files, h'.userId.trans h.userId,
    h'.events.trans h.events⟩

theorem SameEvents.of_memoryOnly (h : MemoryOnly s s')
    (events : (s'.currentStats .daily).events = (s.currentStats .daily).events) :
    SameEvents s s' :=
  ⟨h.database, h.files, h.userId, events⟩

theorem SameEvents.foldl {α : Type} {f : ServiceState → α → ServiceState}
    (h : ∀ s x, SameEvents s (f s x)) (l : List α) (s : ServiceState) :
    SameEvents s (l.foldl f s) := by
  induction l generalizing s with
  | nil => exact .refl s
  | cons x l ih => exact (h s x).trans (ih _)

theorem sameEvents_setStats (s : ServiceState) (i : IntervalType) {p : BundleActivePeriodStats}
    (hp : p.events = (s.currentStats i).events) : SameEvents s (s.setStats i p) := by
  refine ⟨rfl, rfl, rfl, ?_⟩
  by_cases hi : IntervalType.daily = i
  · subst hi
    simpa [setStats] using hp
  · simp [setStats, Function.update_of_ne hi]

theorem sameEvents_updateStats (i : IntervalType) (b n : String) (t : ℤ) (e : EventId) (a : String)
    (uid : ℤ) (s : ServiceState) : SameEvents s (updateStats i b n t e a uid s) := by
  have h := sameEvents_setStats s i
    ((s.currentStats i).events_update s.packageContainUidMap b n t e a uid)
  exact ⟨h.database, h.files, h.userId, h.events⟩

theorem sameEvents_notifyStatsChanged (s : ServiceState) : SameEvents s s.notifyStatsChanged := by
  refine .of_memoryOnly (memoryOnly_notifyStatsChanged s) ?_
  unfold notifyStatsChanged
  split_ifs <;> rfl

theorem sameEvents_updatePeriodStatsOf (event : BundleActiveEvent) (launch : Bool)
    (s : ServiceState) (i : IntervalType) :
    SameEvents s (updatePeriodStatsOf event launch s i) := by
  unfold updatePeriodStatsOf
  simp only
  split
  · exact sameEvents_setStats s i rfl
  · exact sameEvents_setStats s i rfl
  · exact sameEvents_setStats s i rfl
  · exact sameEvents_setStats s i rfl
  · have hupdate := sameEvents_updateStats i event.bundleName event.continuousTaskAbilityName
      event.timeStamp event.eventId event.abilityId event.uid s
    split_ifs
    · exact hupdate.trans (sameEvents_setStats _ i rfl)
    · exact hupdate

theorem sameEvents_updatePeriodStats (event : BundleActiveEvent) (launch : Bool)
    (s : ServiceState) : SameEvents s (s.updatePeriodStats event launch) := by
  have hloop := SameEvents.foldl (sameEvents_updatePeriodStatsOf event launch) IntervalType.all s
  unfold updatePeriodStats
  simp only
  split_ifs
  · exact hloop.trans (sameEvents_notifyStatsChanged _)
  · exact hloop

theorem StoredBefore.sameEvents {t : ℤ} (h : s.StoredBefore t) (hs : SameEvents s s') :
    s'.StoredBefore t := by
  unfold StoredBefore at h ⊢
  rwa [hs.database, hs.files, hs.userId]

theorem EventsOrdered.sameEvents (h : s.EventsOrdered) (hs : SameEvents s s') :
    s'.EventsOrdered := by
  intro event hevent
  rw [hs.events] at hevent
  exact (h event hevent).sameEvents hs

theorem EventsOrdered.of_nil (h : (s.currentStats .daily).events.events = []) :
    s.EventsOrdered := by
  intro event hevent
  rw [h] at hevent
  cases hevent

theorem EventsOrdered.of_subset (h : s.EventsOrdered)
    (events : (s'.currentStats .daily).events.events ⊆ (s.currentStats .daily).events.events)
    (name : s'.database.eventTableName = s.database.eventTableName) (user : s'.userId = s.userId)
    (rows : ∀ t, ∀ row ∈ s'.files.eventTables.rows t, row.userId = s.userId →
      row ∈ s.files.eventTables.rows t) : s'.EventsOrdered := by
  intro event hevent t ht row hrow huser
  rw [name] at ht
  rw [user] at huser
  exact h event (events hevent) t ht row (rows t row hrow huser) huser

theorem mem_events_insert {l : BundleActiveEventList} {event e : BundleActiveEvent} :
    e ∈ (l.insert event).events ↔ e = event ∨ e ∈ l.events := by
  unfold BundleActiveEventList.insert
  split_ifs
  · simp [or_comm]
  · have hle : (l.findBestIndex event.timeStamp).toNat ≤ l.events.length := by
      have := Bisection.rank_le_length l.stamps event.timeStamp
      rw [l.findBestIndex_eq_rank, Int.toNat_natCast]
      rwa [BundleActiveEventList.stamps, List.length_map] at this
    exact List.mem_insertIdx hle

theorem mem_events_addDailyEvent {event e : BundleActiveEvent} :
    e ∈ ((s.addDailyEvent event).currentStats .daily).events.events ↔
      e = event ∨ e ∈ (s.currentStats .daily).events.events := by
  have hevents : ((s.addDailyEvent event).currentStats .daily).events =
      (s.currentStats .daily).events.insert event := by
    unfold ServiceState.addDailyEvent BundleActivePeriodStats.addEvent
    simp [setStats, BundleActivePeriodStats.events_extendEndTime]
  rw [hevents, mem_events_insert]

theorem EventsOrdered.addDailyEvent (h : s.EventsOrdered) {event : BundleActiveEvent}
    (hevent : s.StoredBefore event.timeStamp) : (s.addDailyEvent event).EventsOrdered := by
  intro e he
  rcases mem_events_addDailyEvent.1 he with rfl | he
  · exact hevent
  · exact h e he

theorem events_restoreStats_of_flush {forced : Bool} (flush : s.statsChanged ∨ forced) :
    ((s.restoreStats forced).currentStats .daily).events.events = [] := by
  unfold restoreStats
  rw [if_pos flush]
  rfl

theorem EventsOrdered.restoreStats (h : s.EventsOrdered) (forced : Bool) :
    (s.restoreStats forced).EventsOrdered := by
  by_cases hflush : s.statsChanged ∨ forced
  · exact .of_nil (events_restoreStats_of_flush hflush)
  · unfold ServiceState.restoreStats
    rwa [if_neg hflush]

variable (tz : TimeZone)

/-- A rollover ends with a save, so no event is left in memory. -/
theorem events_renewStatsInMemory (s : ServiceState) (t : ℤ) :
    ((s.renewStatsInMemory tz t).currentStats .daily).events.events = [] := by
  unfold renewStatsInMemory
  simp only
  rw [events_restoreStats_of_flush (.inr rfl)]

theorem EventsOrdered.renewIfExpired (h : s.EventsOrdered) (t : ℤ) :
    (s.renewIfExpired tz t).EventsOrdered := by
  unfold ServiceState.renewIfExpired
  split_ifs
  · exact .of_nil (events_renewStatsInMemory tz s t)
  · exact h

/-- An event that a report puts into the list. -/
def Listed (event : BundleActiveEvent) : Prop :=
  event.eventId ≠ .systemInteractive ∧ event.eventId ≠ .flush

instance (event : BundleActiveEvent) : Decidable (Listed event) :=
  inferInstanceAs (Decidable (_ ∧ _))

/-- After the rollover and the insertion a report only updates the statistics. -/
theorem sameEvents_reportEvent (s : ServiceState) (event : BundleActiveEvent) :
    SameEvents (if event.eventId ≠ .systemInteractive ∧ event.eventId ≠ .flush then
        (s.renewIfExpired tz event.timeStamp).addDailyEvent event
      else s.renewIfExpired tz event.timeStamp) (s.reportEvent tz event) := by
  simp only [ServiceState.reportEvent]
  set s' := if event.eventId ≠ .systemInteractive ∧ event.eventId ≠ .flush then
    (s.renewIfExpired tz event.timeStamp).addDailyEvent event
    else s.renewIfExpired tz event.timeStamp
  have hforeground : SameEvents s' { s' with lastForegroundBundle := event.bundleName } :=
    ⟨rfl, rfl, rfl, rfl⟩
  split_ifs
  · exact hforeground.trans (sameEvents_updatePeriodStats event true _)
  · exact sameEvents_updatePeriodStats event false s'

theorem EventsOrdered.reportEvent (h : s.EventsOrdered) {event : BundleActiveEvent}
    (hevent : Listed event → (s.renewIfExpired tz event.timeStamp).StoredBefore event.timeStamp) :
    (s.reportEvent tz event).EventsOrdered := by
  have hrenewed := h.renewIfExpired tz event.timeStamp
  refine EventsOrdered.sameEvents ?_ (sameEvents_reportEvent tz s event)
  split_ifs with hlisted
  · exact hrenewed.addDailyEvent (hevent hlisted)
  · exact hrenewed

theorem sameEvents_reportForShutdown (s : ServiceState) {event : BundleActiveEvent}
    (hid : event.eventId = .shutdown) :
    SameEvents ((s.addDailyEvent event).renewIfExpired tz event.timeStamp)
      (s.reportForShutdown tz event) := by
  unfold reportForShutdown
  rw [if_neg (not_not.2 hid)]
  exact .trans (SameEvents.foldl (fun s i => sameEvents_updateStats i _ _ _ _ _ _ s) _ _)
    (sameEvents_notifyStatsChanged _)

theorem reportForShutdown_of_ne (s : ServiceState) {event : BundleActiveEvent}
    (hid : event.eventId ≠ .shutdown) : s.reportForShutdown tz event = s := by
  unfold reportForShutdown
  rw [if_pos hid]

theorem EventsOrdered.reportForShutdown (h : s.EventsOrdered) {event : BundleActiveEvent}
    (hevent : event.eventId = .shutdown → s.StoredBefore event.timeStamp) :
    (s.reportForShutdown tz event).EventsOrdered := by
  by_cases hid : event.eventId = .shutdown
  · have hrenewed := (h.addDailyEvent (hevent hid)).renewIfExpired tz event.timeStamp
    exact hrenewed.sameEvents (sameEvents_reportForShutdown tz s hid)
  · rwa [reportForShutdown_of_ne tz s hid]

theorem sameEvents_setModuleRecord (s : ServiceState) (event : BundleActiveEvent)
    (r : BundleActiveModuleRecord) : SameEvents s (s.setModuleRecord event r) :=
  ⟨rfl, rfl, rfl, rfl⟩

theorem sameEvents_reportModuleEvent (s : ServiceState) (event : BundleActiveEvent) :
    SameEvents s (s.reportModuleEvent event) := by
  unfold reportModuleEvent
  split_ifs
  · exact .refl s
  · exact (sameEvents_setModuleRecord s event _).trans (sameEvents_notifyStatsChanged _)

theorem sameEvents_reportFormEvent (s : ServiceState) (event : BundleActiveEvent) :
    SameEvents s (s.reportFormEvent event) := by
  unfold reportFormEvent
  simp only
  split
  · exact (sameEvents_setModuleRecord s event _).trans (sameEvents_notifyStatsChanged _)
  · exact ⟨rfl, rfl, rfl, rfl⟩
  · exact ⟨rfl, rfl, rfl, rfl⟩

theorem events_loadedPeriod (t : ℤ) (s : ServiceState) (i : IntervalType) :
    (loadedPeriod tz t s i).events = {} := by
  have hdata : ∀ stats, (s.databaseState.getCurrentUsageData s.packageContainUidMap i s.userId).1 =
      some stats → stats.events = {} := by
    intro stats h
    unfold DatabaseState.getCurrentUsageData at h
    cases hlast : (s.databaseState.sortedTableArray i).getLast? with
    | none => simp [hlast] at h
    | some table =>
      simp only [hlast] at h
      rw [← Option.some.inj h]
  unfold loadedPeriod
  split
  · rename_i stats hstats
    exact hdata stats (Option.filter_eq_some_iff.1 hstats).1
  · rfl

/-- A load by force takes up periods without events. -/
theorem events_forcedLoad (s : ServiceState) (t : ℤ) (timeChanged : Bool) (i : IntervalType) :
    (((s.loadActiveStats tz t true timeChanged).loadModuleAndFormStats).currentStats
      i).events.events = [] := by
  have hkeeps : ¬ Keeps tz t true s i := fun h => by cases h.1
  rw [currentStats_loadModuleAndFormStats, currentStats_loadActiveStats, if_neg hkeeps,
    events_loadedPeriod]

theorem events_handleTimeChange (s : ServiceState) (t t' : ℤ) :
    ((BundleActiveCore.handleTimeChange tz t t' s).currentStats .daily).events.events = [] :=
  events_forcedLoad tz _ t' true .daily

theorem eventsOrdered_handleTimeChange (s : ServiceState) (t t' : ℤ) :
    (BundleActiveCore.handleTimeChange tz t t' s).EventsOrdered :=
  .of_nil (events_handleTimeChange tz s t t')

theorem mem_rows_of_filtered {Row : Type} {tables tables' : Tables Row} {t : ℤ} {c : Prop}
    [Decidable c] {p : Row → Bool}
    (h : tables'[t]? = if c then (tables[t]?).map (·.filter p) else tables[t]?) {row : Row}
    (hrow : row ∈ tables'.rows t) : row ∈ tables.rows t := by
  unfold Tables.rows at hrow ⊢
  rw [h] at hrow
  split_ifs at hrow
  · cases hrows : tables[t]? with
    | none => simp [hrows] at hrow
    | some rows =>
      rw [hrows, Option.map_some, Option.getD_some] at hrow
      exact (List.mem_filter.1 hrow).1
  · exact hrow

theorem events_deleteUninstalledBundleStats (s : ServiceState) (b : String) (uid appIndex : ℤ) :
    ((s.deleteUninstalledBundleStats b uid appIndex).currentStats .daily).events.events ⊆
      (s.currentStats .daily).events.events := by
  rw [currentStats_deleteUninstalled]
  unfold deleteMemEvent
  split_ifs
  all_goals
    intro e he
    have hmem := (List.mem_filter.1 he).1
    rwa [events_deleteMemUsageStats] at hmem

theorem EventsOrdered.deleteUninstalledBundleStats (h : s.EventsOrdered) (b : String)
    (uid appIndex : ℤ) : (s.deleteUninstalledBundleStats b uid appIndex).EventsOrdered := by
  refine h.of_subset (events_deleteUninstalledBundleStats s b uid appIndex) rfl rfl
    fun t row hrow _ => ?_
  rw [files_deleteUninstalled, DatabaseState.eventTables_onPackageUninstalled] at hrow
  exact mem_rows_of_filtered (getElem?_foldl_modifyRows s.files.eventTables _ _ t) hrow

theorem deleteEventRows_subset (d : DatabaseState) (eventTable time : ℤ) :
    (d.deleteEventRows eventTable time).eventTableName = d.eventTableName ∧
      ∀ t, ∀ row ∈ (d.deleteEventRows eventTable time).eventTables.rows t,
        row ∈ d.eventTables.rows t := by
  unfold DatabaseState.deleteEventRows
  split_ifs
  · exact ⟨rfl, fun _ _ h => h⟩
  · exact ⟨rfl, fun t row hrow => mem_rows_of_filtered (Tables.getElem?_modifyRows ..) hrow⟩

theorem EventsOrdered.deleteExcessiveEventTableData (h : s.EventsOrdered) (deleteDays : ℤ) :
    (s.deleteExcessiveEventTableData deleteDays).EventsOrdered := by
  unfold ServiceState.deleteExcessiveEventTableData
  split_ifs
  · exact h
  · unfold DatabaseState.deleteExcessiveEventTableData
    cases hname : s.databaseState.eventTableName with
    | none => exact h
    | some eventTable =>
      simp only
      split_ifs
      · exact h
      · obtain ⟨hsame, hrows⟩ := deleteEventRows_subset s.databaseState eventTable
          (s.databaseState.eventBeginTime - (sevenDayInMillisMax - deleteDays * oneDayTime) -
            parseStartTime eventTable)
        exact h.of_subset (List.Subset.refl _) hsame rfl fun t row hrow _ => hrows t row hrow

theorem sameEvents_queryBundleStatsInfos (s : ServiceState) (k b e userId : ℤ) (n : String) :
    SameEvents s (s.queryBundleStatsInfos k b e userId n).2 := by
  unfold queryBundleStatsInfos
  split
  · exact .refl s
  · simp only
    split_ifs
    all_goals first
      | exact .refl s
      | exact sameEvents_setStats s _ rfl

/-! ### Runs -/

/-- A step that reports no event of the user before one that is stored when it comes, and after which the
other services have stored none for the user. -/
def InOrder (s : ServiceState) : ServiceOp → Prop
  | .reportEvent event =>
    Listed event → (s.renewIfExpired tz event.timeStamp).StoredBefore event.timeStamp
  | .reportForShutdown event => event.eventId = .shutdown → s.StoredBefore event.timeStamp
  | .otherServices p => ∀ t, ∀ row ∈ p.files.eventTables.rows t, row.userId = s.userId →
    row ∈ s.files.eventTables.rows t
  | _ => True

theorem EventsOrdered.apply (h : s.EventsOrdered) (op : ServiceOp) (inOrder : s.InOrder tz op) :
    (s.apply tz op).EventsOrdered := by
  cases op with
  | reportEvent event => exact h.reportEvent tz inOrder
  | reportForShutdown event => exact h.reportForShutdown tz inOrder
  | reportModuleEvent event => exact h.sameEvents (sameEvents_reportModuleEvent s event)
  | reportFormEvent event => exact h.sameEvents (sameEvents_reportFormEvent s event)
  | restoreStats forced => exact h.restoreStats forced
  | handleTimeChange t t' => exact eventsOrdered_handleTimeChange tz s t t'
  | deleteUninstalledBundleStats b uid appIndex => exact h.deleteUninstalledBundleStats b uid appIndex
  | deleteExcessiveEventTableData days => exact h.deleteExcessiveEventTableData days
  | queryBundleStatsInfos k b e userId n =>
    exact h.sameEvents (sameEvents_queryBundleStatsInfos s k b e userId n)
  | otherServices p => exact h.of_subset (List.Subset.refl _) rfl rfl inOrder

/-- The states of the runs of a service that begin in order and whose steps are in order. -/
inductive OrderedRun : ServiceState → Prop where
  | init (p : ProcessState) (userId : ℤ) (debug : Bool) (timeStamp : ℤ) (stamped : 0 < timeStamp)
    (ordered : (init tz p userId debug timeStamp).EventsOrdered) :
    OrderedRun (init tz p userId debug timeStamp)
  | step {s : ServiceState} (op : ServiceOp) (run : OrderedRun s) (stamped : op.Stamped)
    (inOrder : s.InOrder tz op) : OrderedRun (s.apply tz op)

theorem OrderedRun.eventsOrdered (run : OrderedRun tz s) : s.EventsOrdered := by
  induction run with
  | init p userId debug timeStamp stamped ordered => exact ordered
  | step op run stamped inOrder ih => exact ih.apply tz op inOrder

/-- In every run in order the events of a query are in order, and its truncation keeps the most recent. -/
theorem chronological_queryBundleEvents (run : OrderedRun tz s) {beginTime endTime : ℤ}
    {bundleName : String} {events : List BundleActiveEvent}
    (accepted : s.queryBundleEvents beginTime endTime s.userId bundleName = .ok events)
    (maxNum : ℕ) :
    Chronological events ∧ ∃ dropped, events = dropped ++ deleteOutOfLimitEvents events maxNum ∧
      (deleteOutOfLimitEvents events maxNum).length = min maxNum events.length ∧
      ∀ old ∈ dropped, ∀ kept ∈ deleteOutOfLimitEvents events maxNum,
        old.timeStamp ≤ kept.timeStamp := by
  have hevents := (run.eventsOrdered tz).chronological accepted
  exact ⟨hevents, hevents.deleteOutOfLimitEvents maxNum⟩

def mailEvent (eventId : EventId) (timeStamp : ℤ) : BundleActiveEvent :=
  { bundleName := "com.example.mail", abilityId := "1", eventId := eventId
    timeStamp := timeStamp, uid := 20010001 }

/-- The mail bundle comes to the foreground and is stored by a flush. -/
def storedMail : ServiceState :=
  ((init utc {} 100 false 1709280000000).apply utc
    (.reportEvent (mailEvent .abilityForeground 1709280001000))).apply utc (.restoreStats true)

def orderedMail : ServiceState :=
  storedMail.apply utc (.reportEvent (mailEvent .abilityBackground 1709280002000))

theorem orderedRun_orderedMail : OrderedRun utc orderedMail := by
  have hinit : OrderedRun utc (init utc {} 100 false 1709280000000) :=
    .init {} 100 false 1709280000000 (by decide) (by decide +kernel)
  have hreport := hinit.step (.reportEvent (mailEvent .abilityForeground 1709280001000)) (by decide)
    fun _ => by decide +kernel
  have hstored := hreport.step (.restoreStats true) trivial trivial
  exact hstored.step (.reportEvent (mailEvent .abilityBackground 1709280002000)) (by decide)
    fun _ => by decide +kernel

theorem chronological_orderedMail :
    Chronological [mailEvent .abilityForeground 1709280001000,
      mailEvent .abilityBackground 1709280002000] :=
  (chronological_queryBundleEvents utc orderedRun_orderedMail
    (show orderedMail.queryBundleEvents 1709280000000 1709290000000 orderedMail.userId "" = .ok _ by
      decide +kernel) 1).1

/-- In every state of any run all answers are in order exactly if the events are. -/
theorem chronological_iff {Allowed : ServiceState → ServiceOp → Prop} (run : Run tz Allowed s) :
    (∀ b e n events, s.queryBundleEvents b e s.userId n = .ok events → Chronological events) ↔
      s.EventsOrdered :=
  ⟨fun h => .of_chronological ((tidy_run tz run).ends .daily) fun b e events => h b e "" events,
    fun h _ _ _ _ => h.chronological⟩

end ServiceState

namespace BundleActiveCore

open ServiceState

def bundleEvents (core : BundleActiveCore) (userId beginTime endTime : ℤ) (bundleName : String) :
    Option (List BundleActiveEvent) :=
  core.userStatServices[userId]?.bind fun service =>
    ((core.serviceState service).queryBundleEvents beginTime endTime service.userId
      bundleName).toOption

/-- The mail bundle is in the foreground for half an hour, and the flush task fires. -/
def afterFlush : BundleActiveCore :=
  (((init { systemTime := 1709280000000, realTime := 1000 } {} false).apply utc
    (.report (mailEvent .abilityForeground 2000) 100 false
      { systemTime := 1709280001000, realTime := 2000 })).apply utc
    (.report (mailEvent .abilityBackground 1801000) 100 false
      { systemTime := 1709281800000, realTime := 1801000 })).apply utc
    (.fireFlush { handle := 0, eventId := .flushToDisk, userId := 100, delayTime := 1800000 } false
      { systemTime := 1709281801000, realTime := 1802000 })

/-- The clock is set back by five minutes before the next report. -/
def afterSetBack : BundleActiveCore :=
  afterFlush.apply utc (.report (mailEvent .abilityForeground 1803000) 100 false
    { systemTime := 1709281502000, realTime := 1803000 })

/-- The event after the set-back is the last of the answer but has the earlier stamp, and a truncation to
one event keeps it. -/
theorem not_chronological_afterSetBack :
    Run utc (fun _ _ => True) afterSetBack ∧ ∃ events,
      afterSetBack.bundleEvents 100 1709281000000 1709281800001 "" = some events ∧
      events.map (·.timeStamp) = [1709281800000, 1709281502000] ∧
      (deleteOutOfLimitEvents events 1).map (·.timeStamp) = [1709281502000] ∧
      ¬ Chronological events := by
  refine ⟨?_, ?_⟩
  · refine .step _ (.step _ (.step _ (.step _ (.init _ _ _) trivial trivial) trivial trivial) ?_
      trivial) trivial trivial
    change _ ∈ BundleActiveReportHandler.pending _ ∧ _
    decide +kernel
  · obtain ⟨events, hanswer, hstamps⟩ := Option.map_eq_some_iff.1
      (show (afterSetBack.bundleEvents 100 1709281000000 1709281800001 "").map
        (·.map (·.timeStamp)) = some [1709281800000, 1709281502000] by
          decide +kernel)
    have hlength : events.length = 2 := by
      simpa using congrArg List.length hstamps
    refine ⟨events, hanswer, hstamps, ?_, fun hevents => ?_⟩
    · unfold deleteOutOfLimitEvents
      rw [if_pos (by omega), hlength, List.map_drop, hstamps]
      rfl
    · have hsorted : (events.map (·.timeStamp)).Pairwise (· ≤ ·) := List.pairwise_map.2 hevents
      rw [hstamps] at hsorted
      revert hsorted
      decide

end BundleActiveCore

end DeviceUsageStats
