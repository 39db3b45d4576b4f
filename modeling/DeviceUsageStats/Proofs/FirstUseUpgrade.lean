import DeviceUsageStats.Lib.CarriedFill
import DeviceUsageStats.Lib.KeyedFold
import DeviceUsageStats.Lib.TopElements
import DeviceUsageStats.Spec.FirstUseUpgrade

/-! The first-use times that the upgrade writes. A history row gets the earliest of the records that the
queries find under its usage key, or what the row visited before it got. -/

namespace DeviceUsageStats

def BundleHistoryRow.bundle (row : BundleHistoryRow) : String × ℤ := (row.bundleName, row.uid)

namespace DatabaseState

variable {d : DatabaseState} {userId : ℤ} {rows : List BundleHistoryRow} {row : BundleHistoryRow}

/-! ### First-use times by their purpose -/

def eventTimes (d : DatabaseState) (userId : ℤ) (bundle : String × ℤ) : List ℤ :=
  match d.eventTableName with
  | none => []
  | some eventTable =>
    ((d.eventTables.rows eventTable).filter fun row =>
      row.userId = userId ∧ (row.bundleName, row.uid) = bundle).map
        (·.timeStamp + parseStartTime eventTable)

/-- The last-used times of a bundle in the yearly tables, without those that were never used. -/
def yearlyTimes (d : DatabaseState) (userId : ℤ) (bundle : String × ℤ) : List ℤ :=
  (d.sortedTableArray .yearly).flatMap fun packageTableTime =>
    (((d.packageTables .yearly).rows packageTableTime).filter fun row =>
      row.userId = userId ∧ (row.bundleName, row.uid) = bundle ∧ row.lastTime ≠ -1).map
        (·.lastTime + packageTableTime)

def ownTimes (d : DatabaseState) (userId : ℤ) (bundle : String × ℤ) : List ℤ :=
  d.eventTimes userId bundle ++ d.yearlyTimes userId bundle

/-- The earliest of the times, or the end of time. -/
def firstOf (times : List ℤ) : ℤ := times.min?.getD maxEndTime

def withFirstUse (d : DatabaseState) (userId : ℤ) (row : BundleHistoryRow) : BundleHistoryRow :=
  if row.userId = userId then { row with firstUseTime := firstOf (d.ownTimes userId row.bundle) }
  else row

/-! ### What the loops note -/

/-- The records that the queries find, with the usage keys that they are noted under. -/
def foundRecords (d : DatabaseState) (userId : ℤ) : List (String × ℤ) :=
  (d.queryDatabaseEvents minStartTime maxEndTime userId "").map (fun event =>
      (getBundleUsageKey event.bundleName event.uid, event.timeStamp)) ++
    (d.queryDatabaseUsageStats .yearly minStartTime maxEndTime userId "").map fun packageStats =>
      (getBundleUsageKey packageStats.bundleName packageStats.uid, packageStats.lastTimeUsed)

def foundTimes (d : DatabaseState) (userId : ℤ) (bundle : String × ℤ) : List ℤ :=
  ((d.foundRecords userId).filter (·.1 = getBundleUsageKey bundle.1 bundle.2)).map Prod.snd

def noted (time : Option ℤ) (record : String × ℤ) : Option ℤ :=
  some ((time.map (min · record.2)).getD record.2)

theorem stepAt_noteUseTime :
    KeyedFold.StepAt Prod.fst noted fun all (record : String × ℤ) =>
      noteUseTime all record.1 record.2 where
  own m a := by
    unfold noteUseTime noted
    cases m[a.1]? <;> simp
  other m a k hk := by
    unfold noteUseTime
    cases m[a.1]? <;> simp [Std.TreeMap.getElem?_insert, hk]

theorem foldl_noted (l : List (String × ℤ)) : l.foldl noted none = (l.map Prod.snd).min? := by
  induction l using List.reverseRecOn with
  | nil => rfl
  | append_singleton l a ih =>
    rw [List.foldl_append, ih, List.map_append, List.foldl_cons, List.foldl_nil, noted]
    cases l with
    | nil => rfl
    | cons b l =>
      rw [List.map_cons, List.cons_append, List.min?_cons', List.min?_cons', List.foldl_append]
      rfl

theorem getElem?_getAllBundleFirstUseTime (d : DatabaseState) (userId : ℤ) (bundle : String × ℤ) :
    (d.getAllBundleFirstUseTime userId)[getBundleUsageKey bundle.1 bundle.2]? =
      (d.foundTimes userId bundle).min? := by
  have hall : d.getAllBundleFirstUseTime userId =
      (d.foundRecords userId).foldl (fun all record => noteUseTime all record.1 record.2) {} := by
    unfold getAllBundleFirstUseTime foundRecords
    rw [List.foldl_append, List.foldl_map, List.foldl_map]
  rw [hall, stepAt_noteUseTime.getElem?_foldl, Std.TreeMap.getElem?_emptyc, foldl_noted, foundTimes]

/-! ### What the visits write -/

/-- The earliest record found for a bundle. -/
def foundFirst (d : DatabaseState) (userId : ℤ) (bundle : String × ℤ) : Option ℤ :=
  (d.foundTimes userId bundle).min?

/-- A history row with what the visits have written to it. -/
def writtenRow (d : DatabaseState) (userId : ℤ) (visited : List BundleHistoryRow)
    (row : BundleHistoryRow) : BundleHistoryRow :=
  if row.userId = userId then
    match CarriedFill.written (d.foundFirst userId) maxEndTime (visited.map (·.bundle)) row.bundle with
    | none => row
    | some firstUseTime => { row with firstUseTime := firstUseTime }
  else row

/-- The update of a visit on one row. -/
def setFirstUse (userId : ℤ) (bundle : String × ℤ) (firstUseTime : ℤ) (row : BundleHistoryRow) :
    BundleHistoryRow :=
  if row.userId = userId ∧ row.bundle = bundle then { row with firstUseTime := firstUseTime }
  else row

theorem updateFirstUseOfRow_eq (d : DatabaseState) (userId : ℤ) (r : ℤ × List BundleHistoryRow)
    (visited : BundleHistoryRow) :
    updateFirstUseOfRow (d.getAllBundleFirstUseTime userId) userId r visited =
      (CarriedFill.carry (d.foundFirst userId) r.1 visited.bundle,
        r.2.map (setFirstUse userId visited.bundle
          (CarriedFill.carry (d.foundFirst userId) r.1 visited.bundle))) := by
  have hfound := getElem?_getAllBundleFirstUseTime d userId visited.bundle
  rw [BundleHistoryRow.bundle] at hfound
  unfold updateFirstUseOfRow setFirstUse CarriedFill.carry foundFirst
  simp only [hfound, BundleHistoryRow.bundle, Prod.mk.injEq]

theorem writtenRow_append_singleton (d : DatabaseState) (userId : ℤ)
    (visited : List BundleHistoryRow) (v row : BundleHistoryRow) :
    d.writtenRow userId (visited ++ [v]) row =
      setFirstUse userId v.bundle (CarriedFill.carry (d.foundFirst userId)
        ((visited.map (·.bundle)).foldl (CarriedFill.carry (d.foundFirst userId)) maxEndTime) v.bundle)
        (d.writtenRow userId visited row) := by
  unfold writtenRow
  rw [List.map_append, List.map_singleton, CarriedFill.written_append_singleton]
  by_cases hu : row.userId = userId
  · rw [if_pos hu, if_pos hu]
    unfold setFirstUse
    by_cases hv : v.bundle = row.bundle
    · cases CarriedFill.written (d.foundFirst userId) maxEndTime (visited.map (·.bundle))
        row.bundle with
      | none => rw [if_pos hv, if_pos ⟨hu, hv.symm⟩]
      | some firstUseTime => rw [if_pos hv, if_pos ⟨hu, hv.symm⟩]
    · cases CarriedFill.written (d.foundFirst userId) maxEndTime (visited.map (·.bundle))
        row.bundle with
      | none => rw [if_neg hv, if_neg fun h => hv h.2.symm]
      | some firstUseTime => rw [if_neg hv, if_neg fun h => hv h.2.symm]
  · rw [if_neg hu, if_neg hu, setFirstUse, if_neg fun h => hu h.1]

theorem foldl_updateFirstUseOfRow (d : DatabaseState) (userId : ℤ)
    (visited rows : List BundleHistoryRow) :
    visited.foldl (updateFirstUseOfRow (d.getAllBundleFirstUseTime userId) userId)
        (maxEndTime, rows) =
      ((visited.map (·.bundle)).foldl (CarriedFill.carry (d.foundFirst userId)) maxEndTime,
        rows.map (d.writtenRow userId visited)) := by
  induction visited using List.reverseRecOn with
  | nil =>
    have hnone : d.writtenRow userId [] = id := funext fun row => by
      unfold writtenRow
      exact ite_self row
    rw [hnone, List.map_id]
    rfl
  | append_singleton visited v ih =>
    rw [List.foldl_append, ih, List.foldl_cons, List.foldl_nil, updateFirstUseOfRow_eq,
      List.map_append, List.foldl_append, List.map_map]
    refine Prod.ext rfl (List.map_congr_left fun row _ => ?_)
    exact (writtenRow_append_singleton d userId visited v row).symm

theorem updateFirstUseTime_eq (d : DatabaseState) (visited rows : List BundleHistoryRow)
    (userId : ℤ) :
    d.updateFirstUseTime visited rows userId = rows.map (d.writtenRow userId visited) := by
  rw [updateFirstUseTime, foldl_updateFirstUseOfRow]

/-! ### When the first uses are right -/

def orEnd (times : List ℤ) : List ℤ := if times = [] then [maxEndTime] else times

theorem firstOf_spec (times : List ℤ) :
    firstOf times ∈ orEnd times ∧ ∀ t ∈ orEnd times, firstOf times ≤ t := by
  cases hmin : times.min? with
  | none =>
    rw [firstOf, hmin, orEnd, if_pos (List.min?_eq_none_iff.1 hmin)]
    simp
  | some m =>
    have hne : times ≠ [] := fun h => by rw [h] at hmin; cases hmin
    rw [firstOf, hmin, orEnd, if_neg hne]
    exact List.min?_eq_some_iff.1 hmin

theorem firstOf_eq_iff (times times' : List ℤ) :
    firstOf times = firstOf times' ↔
      (∀ t ∈ orEnd times, ∃ t' ∈ orEnd times', t' ≤ t) ∧
        ∀ t' ∈ orEnd times', ∃ t ∈ orEnd times, t ≤ t' := by
  obtain ⟨hmem, hle⟩ := firstOf_spec times
  obtain ⟨hmem', hle'⟩ := firstOf_spec times'
  refine ⟨fun h => ⟨fun t ht => ⟨_, hmem', h ▸ hle t ht⟩, fun t ht => ⟨_, hmem, h ▸ hle' t ht⟩⟩,
    fun ⟨h, h'⟩ => le_antisymm ?_ ?_⟩
  · obtain ⟨t, ht, hle₁⟩ := h' _ hmem'
    exact (hle t ht).trans hle₁
  · obtain ⟨t, ht, hle₁⟩ := h _ hmem
    exact (hle' t ht).trans hle₁

/-- What the first use of a history row needs of the records. None that is found under the row's usage
key is before all uses of the row's bundle, as a never-used year or a bundle with the same key may be;
no use that the queries miss is before all that they find; and if they find none, no row of the table
has a record before the end of time. -/
structure FirstUseFound (d : DatabaseState) (userId : ℤ) (rows : List BundleHistoryRow)
    (bundle : String × ℤ) : Prop where
  strays : ∀ t ∈ orEnd (d.foundTimes userId bundle), ∃ t' ∈ orEnd (d.ownTimes userId bundle), t' ≤ t
  missed : ∀ t' ∈ orEnd (d.ownTimes userId bundle), ∃ t ∈ orEnd (d.foundTimes userId bundle), t ≤ t'
  carried : d.foundTimes userId bundle = [] → ∀ row ∈ rows, d.foundTimes userId row.bundle ≠ [] →
    maxEndTime ∈ d.foundTimes userId row.bundle ∧
      ∀ t ∈ d.foundTimes userId row.bundle, maxEndTime ≤ t

theorem firstUseFound_iff (bundle : String × ℤ) :
    FirstUseFound d userId rows bundle ↔
      (∀ m ∈ d.foundFirst userId bundle, m = firstOf (d.ownTimes userId bundle)) ∧
        (d.foundFirst userId bundle = none → firstOf (d.ownTimes userId bundle) = maxEndTime ∧
          ∀ j ∈ rows.map (·.bundle), ∀ m ∈ d.foundFirst userId j, m = maxEndTime) := by
  have hlead := firstOf_eq_iff (d.foundTimes userId bundle) (d.ownTimes userId bundle)
  have hcarried : (∀ row ∈ rows, d.foundTimes userId row.bundle ≠ [] →
      maxEndTime ∈ d.foundTimes userId row.bundle ∧
        ∀ t ∈ d.foundTimes userId row.bundle, maxEndTime ≤ t) ↔
      ∀ j ∈ rows.map (·.bundle), ∀ m ∈ d.foundFirst userId j, m = maxEndTime := by
    rw [List.forall_mem_map]
    refine forall₂_congr fun row _ => ?_
    rw [← List.min?_eq_some_iff]
    cases hmin : d.foundFirst userId row.bundle with
    | none => simp [List.min?_eq_none_iff.1 hmin]
    | some m =>
      have hne : d.foundTimes userId row.bundle ≠ [] := fun h => by
        rw [foundFirst, h] at hmin
        cases hmin
      rw [foundFirst] at hmin
      simp [hne, hmin]
  refine ⟨fun h => ⟨fun m hm => ?_, fun hnone => ⟨?_, hcarried.1 (h.carried ?_)⟩⟩,
    fun ⟨hown, hnone⟩ => ?_⟩
  · rw [← hlead.2 ⟨h.strays, h.missed⟩, firstOf, ← foundFirst, Option.mem_def.1 hm,
      Option.getD_some]
  · rw [← hlead.2 ⟨h.strays, h.missed⟩, firstOf, ← foundFirst, hnone, Option.getD_none]
  · exact List.min?_eq_none_iff.1 hnone
  · have hfirst : firstOf (d.foundTimes userId bundle) = firstOf (d.ownTimes userId bundle) := by
      rw [firstOf, ← foundFirst]
      cases hmin : d.foundFirst userId bundle with
      | none => rw [Option.getD_none, (hnone hmin).1]
      | some m => rw [Option.getD_some, hown m hmin]
    obtain ⟨hstrays, hmissed⟩ := hlead.1 hfirst
    exact ⟨hstrays, hmissed, fun h => hcarried.2 (hnone (List.min?_eq_none_iff.2 h)).2⟩

theorem writtenRow_eq_withFirstUse {visited : List BundleHistoryRow} (hu : row.userId = userId)
    (hmem : row.bundle ∈ visited.map (·.bundle)) :
    d.writtenRow userId visited row = d.withFirstUse userId row ↔
      CarriedFill.written (d.foundFirst userId) maxEndTime (visited.map (·.bundle)) row.bundle =
        some (firstOf (d.ownTimes userId row.bundle)) := by
  obtain ⟨t, ht⟩ := CarriedFill.exists_written (d.foundFirst userId) maxEndTime hmem
  rw [writtenRow, withFirstUse, if_pos hu, if_pos hu, ht]
  refine ⟨fun h => congrArg some (congrArg (·.firstUseTime) h), fun h => ?_⟩
  rw [Option.some.inj h]

theorem updateFirstUseTime_iff (d : DatabaseState) (rows : List BundleHistoryRow) (userId : ℤ) :
    (∀ visited : List BundleHistoryRow, visited.Perm rows →
        d.updateFirstUseTime visited rows userId = rows.map (d.withFirstUse userId)) ↔
      ∀ row ∈ rows, row.userId = userId → FirstUseFound d userId rows row.bundle := by
  simp only [updateFirstUseTime_eq, List.map_inj_left]
  refine ⟨fun h row hrow hu => ?_, fun h visited hvisited row hrow => ?_⟩
  · have hmem : row.bundle ∈ rows.map (·.bundle) := List.mem_map_of_mem hrow
    rw [firstUseFound_iff, ← CarriedFill.written_perm_iff hmem]
    intro l' hl'
    obtain ⟨visited, hvisited, rfl⟩ := TopElements.exists_map_of_perm hl'
    exact (writtenRow_eq_withFirstUse hu (hl'.mem_iff.2 hmem)).1 (h visited hvisited row hrow)
  · by_cases hu : row.userId = userId
    · have hmem : row.bundle ∈ rows.map (·.bundle) := List.mem_map_of_mem hrow
      have hperm := hvisited.map (·.bundle)
      have hfound := (firstUseFound_iff row.bundle).1 (h row hrow hu)
      rw [writtenRow_eq_withFirstUse hu (hperm.mem_iff.2 hmem)]
      exact (CarriedFill.written_perm_iff hmem _).2 hfound _ hperm
    · rw [writtenRow, withFirstUse, if_neg hu, if_neg hu]

def historyRow (bundleName : String) (uid : ℤ) : BundleHistoryRow :=
  { userId := 0, bundleName := bundleName, lastBootFromUsedTime := 0, lastScreenUsedTime := 0
    currentGroup := activeGroupNever, reasonInGroup := groupControlReasonDefault
    bundleAliveTimeoutTime := 0, bundleDailyTimeoutTime := 0, uid := uid
    firstUseTime := maxEndTime }

/-- Two history rows, and an event table with an event of the first bundle. -/
def mailAndNotes : List BundleHistoryRow :=
  [historyRow "com.example.mail" 20010, historyRow "com.example.notes" 20011]

def oneMailEvent : DatabaseState :=
  { eventTableName := some 1000
    eventTables := ({} : Tables EventLogRow).insert 1000
      [{ userId := 0, bundleName := "com.example.mail", eventId := .abilityForeground
         timeStamp := 500, abilityId := "", uid := 20010 }] }

/-- The bundle that was never used gets the first use of the row visited before. -/
theorem updateFirstUseTime_leak :
    (oneMailEvent.updateFirstUseTime mailAndNotes mailAndNotes 0).map (·.firstUseTime) =
        [1500, 1500] ∧
      (mailAndNotes.map (oneMailEvent.withFirstUse 0)).map (·.firstUseTime) = [1500, maxEndTime] :=
  ⟨by decide +kernel, by decide +kernel⟩

end DatabaseState
end DeviceUsageStats
