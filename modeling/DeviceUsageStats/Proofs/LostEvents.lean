import DeviceUsageStats.Proofs.PackageQueries
import DeviceUsageStats.Sanity.EventTables
import DeviceUsageStats.Spec.StoreFailures

/-! Flushes into an event store that fails. A flush clears the events and the flag whatever the store has
taken, so nothing is lost exactly if the store has taken everything. -/

namespace DeviceUsageStats

namespace DatabaseState

def writtenEvents (d : DatabaseState) (store : EventStore) (stats : BundleActivePeriodStats) :
    List BundleActiveEvent :=
  match store with
  | .unopened => []
  | .opened inserted =>
    let d := d.initEventTable stats.beginTime
    if d.eventTableName.any (d.eventTables.contains ·) then stats.events.events.take inserted
    else []

def unwrittenEvents (d : DatabaseState) (store : EventStore) (stats : BundleActivePeriodStats) :
    List BundleActiveEvent :=
  stats.events.events.drop (d.writtenEvents store stats).length

variable (d : DatabaseState) (store : EventStore) (stats : BundleActivePeriodStats)

theorem updateEventDataIn_opened {inserted : ℕ} (h : stats.events.events.length ≤ inserted) :
    d.updateEventDataIn (.opened inserted) stats = d.updateEventData stats := by
  unfold updateEventDataIn updateEventData
  split_ifs
  · rfl
  · have htake : ∀ t, (stats.events.events.map (eventLogRow stats (parseStartTime t))).take inserted =
        stats.events.events.map (eventLogRow stats (parseStartTime t)) := fun t =>
      List.take_of_length_le (by rwa [List.length_map])
    cases hname : (d.initEventTable stats.beginTime).eventTableName with
    | none => simp only [hname]
    | some t => simp only [hname, htake]

/-- The store is open, has the table that the object chooses and takes every event. -/
def EventsTaken : Prop :=
  ∃ inserted t, store = .opened inserted ∧ stats.events.events.length ≤ inserted ∧
    (d.initEventTable stats.beginTime).eventTableName = some t ∧
    (d.initEventTable stats.beginTime).eventTables.contains t = true

theorem unwrittenEvents_eq_nil_iff : d.unwrittenEvents store stats = [] ↔
    stats.events.events = [] ∨ EventsTaken d store stats := by
  rw [unwrittenEvents, List.drop_eq_nil_iff, ← List.length_eq_zero_iff]
  cases store with
  | unopened => simp [writtenEvents, EventsTaken]
  | opened inserted =>
    cases hname : (d.initEventTable stats.beginTime).eventTableName with
    | none => simp [writtenEvents, EventsTaken, hname]
    | some t =>
      by_cases hmem : (d.initEventTable stats.beginTime).eventTables.contains t = true
      · have htaken : EventsTaken d (.opened inserted) stats ↔
            stats.events.events.length ≤ inserted := by
          simp [EventsTaken, hname, Std.TreeMap.contains_iff_mem.1 hmem]
        simp only [writtenEvents, hname, Option.any_some, if_pos hmem, htaken, List.length_take]
        omega
      · have htaken : ¬ EventsTaken d (.opened inserted) stats := by
          rintro ⟨-, t', -, -, ht', hmem'⟩
          rw [hname] at ht'
          cases ht'
          exact hmem hmem'
        simp only [writtenEvents, hname, Option.any_some, if_neg hmem, htaken, or_false,
          List.length_nil, Nat.le_zero]

end DatabaseState

namespace ServiceState

variable (s : ServiceState) (store : EventStore) (forced : Bool)

theorem restoreStatsIn_opened {inserted : ℕ}
    (h : (s.currentStats .daily).events.events.length ≤ inserted) :
    s.restoreStatsIn (.opened inserted) forced = s.restoreStats forced := by
  have hdaily : restoreStatsOfIn (.opened inserted) s .daily = restoreStatsOf s .daily := by
    unfold restoreStatsOfIn restoreStatsOf
    simp only [if_true]
    rw [DatabaseState.updateEventDataIn_opened _ _ h]
  have hother : ∀ s, ∀ i ≠ .daily, restoreStatsOfIn (.opened inserted) s i = restoreStatsOf s i := by
    intro s i hi
    unfold restoreStatsOfIn restoreStatsOf
    simp only [if_neg hi]
  have hall : IntervalType.all.foldl (restoreStatsOfIn (.opened inserted)) s =
      IntervalType.all.foldl restoreStatsOf s := by
    simp only [IntervalType.all, List.foldl_cons, List.foldl_nil]
    rw [hdaily, hother _ .weekly (by decide), hother _ .monthly (by decide),
      hother _ .yearly (by decide)]
  unfold restoreStatsIn restoreStats
  rw [hall]

/-- The events that were not written are in memory and a set flag is still set. -/
structure UnsavedKept (s' : ServiceState) (unwritten : List BundleActiveEvent) : Prop where
  events : unwritten ⊆ (s'.currentStats .daily).events.events
  statsChanged : s.statsChanged = true → unwritten ≠ [] → s'.statsChanged = true

theorem cleared_restoreStatsIn (h : s.statsChanged ∨ forced) :
    ((s.restoreStatsIn store forced).currentStats .daily).events.events = [] ∧
      (s.restoreStatsIn store forced).statsChanged = false := by
  unfold restoreStatsIn
  rw [if_pos h]
  exact ⟨rfl, rfl⟩

/-- Nothing is lost exactly if there is no flush, no event, or no failure. -/
theorem unsavedKept_restoreStatsIn_iff :
    UnsavedKept s (s.restoreStatsIn store forced)
        (s.databaseState.unwrittenEvents store (s.currentStats .daily)) ↔
      ¬ (s.statsChanged ∨ forced) ∨ (s.currentStats .daily).events.events = [] ∨
        s.databaseState.EventsTaken store (s.currentStats .daily) := by
  rw [← DatabaseState.unwrittenEvents_eq_nil_iff]
  by_cases h : s.statsChanged ∨ forced
  · obtain ⟨hevents, -⟩ := cleared_restoreStatsIn s store forced h
    rw [or_iff_right (not_not_intro h)]
    constructor
    · intro hkept
      exact List.subset_nil.1 (hevents ▸ hkept.events)
    · intro hnone
      rw [hnone]
      exact ⟨List.nil_subset _, fun _ hne => absurd rfl hne⟩
  · have hrun : s.restoreStatsIn store forced = s := by
      unfold restoreStatsIn
      rw [if_neg h]
    rw [hrun]
    refine iff_of_true ⟨List.drop_subset .., fun hchanged _ => hchanged⟩ (.inl h)

/-- A flush of a used service into a store that cannot be opened loses its events and its flag. -/
theorem not_unsavedKept_usedService :
    Run utc (fun _ _ => True) usedService ∧ usedService.statsChanged = true ∧
      ¬ UnsavedKept usedService (usedService.restoreStatsIn .unopened false)
        (usedService.databaseState.unwrittenEvents .unopened (usedService.currentStats .daily)) := by
  refine ⟨run_usedService, by decide +kernel, fun h => ?_⟩
  have hevents := (cleared_restoreStatsIn usedService .unopened false
    (.inl (by decide +kernel))).1
  have hnone := List.subset_nil.1 (hevents ▸ h.events)
  revert hnone
  decide +kernel

end ServiceState

end DeviceUsageStats
