import DeviceUsageStats.Spec.DataSize

/-! The days of events that a full folder costs. The rounds of the loop add up to the last of them alone, and
the loop ends with the first round that is enough. -/

namespace DeviceUsageStats

namespace DatabaseState

variable {d : DatabaseState} {j k : ℕ}

/-- The events that the round for a number of days leaves, in an event table that starts at a time. -/
def keepsEvent (d : DatabaseState) (k : ℕ) (eventTableTime : ℤ) (row : EventLogRow) : Bool :=
  let deleteTimePoint := d.eventBeginTime - (sevenDayInMillisMax - k * oneDayTime) - eventTableTime
  deleteTimePoint ≤ 0 ∨ deleteTimePoint < row.timeStamp

def eventsAfter (d : DatabaseState) (k : ℕ) (t : ℤ) : List EventLogRow :=
  if d.eventTableName = some t ∧ d.eventBeginTime ≠ eventBeginTimeInitialValue then
    (d.eventTables.rows t).filter (d.keepsEvent k (parseStartTime t))
  else d.eventTables.rows t

/-- The databases differ in the rows of event tables alone. -/
structure OnlyEvents (d d' : DatabaseState) : Prop where
  database : d'.toBundleActiveUsageDatabase = d.toBundleActiveUsageDatabase
  packages : d'.packageTables = d.packageTables
  modules : d'.moduleTables = d.moduleTables
  forms : d'.formTables = d.formTables
  names : ∀ t : ℤ, t ∈ d'.eventTables ↔ t ∈ d.eventTables

theorem OnlyEvents.refl (d : DatabaseState) : OnlyEvents d d := ⟨rfl, rfl, rfl, rfl, fun _ => .rfl⟩

theorem OnlyEvents.trans {d d' d'' : DatabaseState} (h : OnlyEvents d d') (h' : OnlyEvents d' d'') :
    OnlyEvents d d'' :=
  ⟨h'.database.trans h.database, h'.packages.trans h.packages, h'.modules.trans h.modules,
    h'.forms.trans h.forms, fun t => (h'.names t).trans (h.names t)⟩

theorem rows_modifyRows {Row : Type} (tables : Tables Row) (t x : ℤ) (p : Row → Bool) :
    (tables.modifyRows t (·.filter p)).rows x =
      if x = t then (tables.rows x).filter p else tables.rows x := by
  unfold Tables.rows
  rw [Tables.getElem?_modifyRows]
  split_ifs
  · cases tables[x]? <;> rfl
  · rfl

theorem onlyEvents_deleteExcessive (d : DatabaseState) (k : ℤ) :
    OnlyEvents d (d.deleteExcessiveEventTableData k) := by
  unfold deleteExcessiveEventTableData
  cases d.eventTableName with
  | none => exact .refl d
  | some eventTable =>
    unfold deleteEventRows
    simp only
    split_ifs
    · exact .refl d
    · exact .refl d
    · exact ⟨rfl, rfl, rfl, rfl, fun t => Tables.mem_modifyRows _ _ _ _⟩

theorem rows_deleteExcessive (d : DatabaseState) (k : ℕ) (t : ℤ) :
    (d.deleteExcessiveEventTableData k).eventTables.rows t = d.eventsAfter k t := by
  unfold deleteExcessiveEventTableData eventsAfter
  cases hname : d.eventTableName with
  | none => simp
  | some eventTable =>
    by_cases hbegun : d.eventBeginTime = eventBeginTimeInitialValue
    · simp [hbegun]
    · simp only [hbegun, if_false, ne_eq, not_false_eq_true, and_true, Option.some.injEq]
      unfold deleteEventRows keepsEvent
      split_ifs with hpoint ht ht
      · subst ht
        rw [List.filter_eq_self.2 fun row _ => by simp [hpoint]]
      · rfl
      · rw [rows_modifyRows, if_pos ht.symm, ht]
        refine List.filter_congr fun row _ => ?_
        rw [← ht, Bool.eq_iff_iff, decide_eq_true_eq, decide_eq_true_eq, not_le, or_iff_right hpoint]
      · rw [rows_modifyRows, if_neg (Ne.symm ht)]

theorem keepsEvent_mono (h : j ≤ k) {t : ℤ} {row : EventLogRow} (hk : d.keepsEvent k t row = true) :
    d.keepsEvent j t row = true := by
  have hdays : (j : ℤ) * oneDayTime ≤ k * oneDayTime :=
    mul_le_mul_of_nonneg_right (by exact_mod_cast h) (by decide)
  unfold keepsEvent at hk ⊢
  simp only [decide_eq_true_eq] at hk ⊢
  omega

def deletedUpTo (d : DatabaseState) (k : ℕ) : DatabaseState :=
  (List.range (k + 1)).foldl (fun d j => d.deleteExcessiveEventTableData (j : ℕ)) d

theorem onlyEvents_deletedUpTo (d : DatabaseState) (k : ℕ) : OnlyEvents d (d.deletedUpTo k) :=
  List.foldlRecOn (motive := fun d' : DatabaseState => OnlyEvents d d') _ _ (.refl d)
    fun d' h j _ => h.trans (onlyEvents_deleteExcessive d' j)

/-- The rounds up to one of them delete what that one alone would have. -/
theorem rows_deletedUpTo (d : DatabaseState) (k : ℕ) (t : ℤ) :
    (d.deletedUpTo k).eventTables.rows t = d.eventsAfter k t := by
  induction k with
  | zero => exact rows_deleteExcessive d 0 t
  | succ k ih =>
    have hsame := (onlyEvents_deletedUpTo d k).database
    have hname : (d.deletedUpTo k).eventTableName = d.eventTableName :=
      congrArg BundleActiveUsageDatabase.eventTableName hsame
    have hbegin : (d.deletedUpTo k).eventBeginTime = d.eventBeginTime :=
      congrArg BundleActiveUsageDatabase.eventBeginTime hsame
    have hstep : d.deletedUpTo (k + 1) =
        (d.deletedUpTo k).deleteExcessiveEventTableData ((k + 1 : ℕ) : ℤ) := by
      rw [deletedUpTo, List.range_succ, List.foldl_append]
      rfl
    rw [hstep, rows_deleteExcessive]
    unfold eventsAfter at ih ⊢
    rw [hname, hbegin, ih]
    split_ifs with h
    · rw [List.filter_filter]
      refine List.filter_congr fun row _ => ?_
      have hkeeps : (d.deletedUpTo k).keepsEvent (k + 1) (parseStartTime t) row =
          d.keepsEvent (k + 1) (parseStartTime t) row := by
        rw [keepsEvent, keepsEvent, hbegin]
      rw [hkeeps, Bool.eq_iff_iff, Bool.and_eq_true]
      exact ⟨And.left, fun hk => ⟨hk, keepsEvent_mono (Nat.le_succ k) hk⟩⟩
    · rfl

end DatabaseState

/-! ### The loop -/

def ServiceState.deletedFor (s : ServiceState) (days : List ℕ) : ServiceState :=
  days.foldl (fun s (deleteDays : ℕ) => s.deleteExcessiveEventTableData deleteDays) s

theorem ServiceState.databaseState_deletedFor (s : ServiceState) (days : List ℕ) :
    s.deletedFor days = s.setDatabase
      (days.foldl (fun d (deleteDays : ℕ) => d.deleteExcessiveEventTableData deleteDays)
        s.databaseState) := by
  induction days generalizing s with
  | nil => rfl
  | cons deleteDays days ih =>
    have hstep : s.deleteExcessiveEventTableData (deleteDays : ℕ) =
        s.setDatabase (s.databaseState.deleteExcessiveEventTableData deleteDays) :=
      if_neg (by omega)
    rw [ServiceState.deletedFor, List.foldl_cons, hstep]
    exact ih _

/-- The loop ends with the first round that is enough, or with the last. -/
theorem deleteExcessiveLoop_spec (isFolderSizeLimit : DatabaseFiles → Bool) (s : ServiceState)
    {days : List ℕ} (hdays : days ≠ []) :
    ∃ k < days.length,
      deleteExcessiveLoop isFolderSizeLimit days s = s.deletedFor (days.take (k + 1)) ∧
      (∀ j < k, isFolderSizeLimit (s.deletedFor (days.take (j + 1))).files = true) ∧
      (k + 1 < days.length → isFolderSizeLimit (s.deletedFor (days.take (k + 1))).files = false) := by
  induction days generalizing s with
  | nil => exact absurd rfl hdays
  | cons deleteDays days ih =>
    rw [deleteExcessiveLoop]
    by_cases hlimit : isFolderSizeLimit (s.deleteExcessiveEventTableData deleteDays).files = true
    · rcases days.eq_nil_or_concat with rfl | ⟨_, _, hnonempty⟩
      · refine ⟨0, Nat.zero_lt_one, ?_, fun j hj => absurd hj (Nat.not_lt_zero j), fun h => ?_⟩
        · rw [if_pos hlimit]
          rfl
        · exact absurd h (lt_irrefl _)
      · have hne : days ≠ [] := by simp [hnonempty]
        obtain ⟨k, hk, hloop, hbefore, henough⟩ := ih (s.deleteExcessiveEventTableData deleteDays) hne
        refine ⟨k + 1, Nat.succ_lt_succ hk, ?_, fun j hj => ?_, fun h => ?_⟩
        · rw [if_pos hlimit]
          exact hloop
        · cases j with
          | zero => exact hlimit
          | succ j => exact hbefore j (Nat.lt_of_succ_lt_succ hj)
        · exact henough (Nat.lt_of_succ_lt_succ h)
    · refine ⟨0, Nat.succ_pos _, ?_, fun j hj => absurd hj (Nat.not_lt_zero j), fun _ => ?_⟩
      · rw [if_neg hlimit]
        rfl
      · exact Bool.eq_false_iff.2 hlimit

namespace BundleActiveCore

variable (core : BundleActiveCore) {service : BundleActiveUserService}

theorem processDataSize_least (isFolderSizeLimit : DatabaseFiles → Bool)
    (hlimit : isFolderSizeLimit core.files = true)
    (hservice : core.userStatServices[core.currentUsedUser]? = some service) :
    ∃ k ≤ 6,
      (∀ t, (core.processDataSize isFolderSizeLimit).files.eventTables.rows t =
        (core.serviceState service).databaseState.eventsAfter k t) ∧
      (∃ d, DatabaseState.OnlyEvents (core.serviceState service).databaseState d ∧
        core.processDataSize isFolderSizeLimit = core.putService core.currentUsedUser
          ((core.serviceState service).setDatabase d)) ∧
      (∀ j < k, isFolderSizeLimit
        ((core.serviceState service).databaseState.deletedUpTo j).toDatabaseFiles = true) ∧
      (k < 6 → isFolderSizeLimit (core.processDataSize isFolderSizeLimit).files = false) := by
  have htake : ∀ k, k < 7 → deleteEventDaliys.take (k + 1) = List.range (k + 1) := fun k hk => by
    rw [deleteEventDaliys, List.take_range, Nat.min_eq_left hk]
  have hdays : deleteEventDaliys ≠ [] := by decide
  obtain ⟨k, hk, hloop, hbefore, henough⟩ :=
    deleteExcessiveLoop_spec isFolderSizeLimit (core.serviceState service) hdays
  have hk : k < 7 := hk
  have hcore : core.processDataSize isFolderSizeLimit = core.putService core.currentUsedUser
      ((core.serviceState service).setDatabase
        ((core.serviceState service).databaseState.deletedUpTo k)) := by
    rw [processDataSize, if_pos hlimit, deleteExcessiveTableData, withService, hservice]
    simp only
    rw [hloop, ServiceState.databaseState_deletedFor, htake k hk]
    rfl
  refine ⟨k, Nat.lt_succ_iff.1 hk, fun t => ?_, ⟨_, DatabaseState.onlyEvents_deletedUpTo _ k, hcore⟩,
    fun j hj => ?_, fun hlt => ?_⟩
  · rw [hcore]
    exact DatabaseState.rows_deletedUpTo _ k t
  · have hj := hbefore j hj
    rwa [ServiceState.databaseState_deletedFor, htake j (by omega)] at hj
  · have henough := henough (by simp [deleteEventDaliys]; omega)
    rw [ServiceState.databaseState_deletedFor, htake k hk] at henough
    rw [hcore]
    exact henough

def eightDays : BundleActiveCore :=
  { systemTimeShot := 0
    realTimeShot := 0
    currentUsedUser := 100
    userStatServices := ({} : Std.TreeMap ℤ BundleActiveUserService).insert 100
      { userId := 100, database := { eventTableName := some 0, eventBeginTime := 8 * oneDayTime } }
    files :=
      { eventTables := ({} : Tables EventLogRow).insert 0
          [{ userId := 100, bundleName := "com.example.mail", eventId := .abilityForeground
             timeStamp := 4 * oneDayTime, abilityId := "", uid := 20010044 },
            { userId := 100, bundleName := "com.example.mail", eventId := .abilityBackground
              timeStamp := 7 * oneDayTime + 1, abilityId := "", uid := 20010044 }] } }

def holdsTwo (files : DatabaseFiles) : Bool := 2 ≤ (files.eventTables.rows 0).length

theorem processDataSize_least_eightDays : ∃ k ≤ 6,
    (∀ t, (eightDays.processDataSize holdsTwo).files.eventTables.rows t =
      (eightDays.serviceState
        { userId := 100, database := { eventTableName := some 0, eventBeginTime := 8 * oneDayTime } }
          ).databaseState.eventsAfter k t) ∧
    (k < 6 → holdsTwo (eightDays.processDataSize holdsTwo).files = false) := by
  obtain ⟨k, hk, hrows, -, -, henough⟩ :=
    processDataSize_least eightDays holdsTwo (by decide +kernel) rfl
  exact ⟨k, hk, hrows, henough⟩

example : ((eightDays.processDataSize holdsTwo).files.eventTables.rows 0).map (·.timeStamp) =
    [7 * oneDayTime + 1] := by decide +kernel

end BundleActiveCore

end DeviceUsageStats
