import DeviceUsageStats.Sanity.SaveAndLoad

/-! Queries of package stats do not see a save. The database half of a query ends where the current
period starts and reads the tables below its end, and a save writes the table of the current period
only; the memory half reads what a save does not touch. -/

namespace DeviceUsageStats
namespace ServiceState

open DatabaseState

variable (tz : TimeZone) {s : ServiceState} {i : IntervalType}

theorem queryDatabaseUsageStats_restoreStats (tidy : s.Tidy)
    (kept : ∀ t ∈ s.database.sortedTableArray i,
      t ∈ (s.restoreStats true).database.sortedTableArray i)
    {b e : ℤ} (he : e ≤ (s.currentStats i).beginTime) (userId : ℤ) (bundleName : String) :
    (s.restoreStats true).databaseState.queryDatabaseUsageStats i b e userId bundleName =
      s.databaseState.queryDatabaseUsageStats i b e userId bundleName := by
  obtain ⟨harray, htables⟩ := restoreStats_packages s i
  have hsaved : ((s.savedPackages i).sortedTableArray i).filter (· < e) =
        (s.databaseState.sortedTableArray i).filter (· < e) ∧
      ∀ t ∈ s.databaseState.sortedTableArray i, t < e →
        ((s.savedPackages i).packageTables i)[t]? = (s.databaseState.packageTables i)[t]? := by
    have kept' : ∀ t ∈ s.databaseState.sortedTableArray i,
        t ∈ (s.savedPackages i).sortedTableArray i := fun t ht => harray ▸ kept t ht
    unfold savedPackages at kept' ⊢
    split_ifs at kept' ⊢
    · exact ⟨rfl, fun _ _ _ => rfl⟩
    · exact updateBundleUsageData_below tidy.arrays he kept'
  refine (queryDatabaseUsageStats_congr (tidy.arrays i) ((tidy.restoreStats true).arrays i) ?_
    (fun t ht hlt => ?_) userId bundleName).symm
  · rw [harray, hsaved.1]
  · refine (Tables.rows_eq_of_getElem? _ _ ?_).symm
    rw [htables, hsaved.2 t ht hlt]

/-- In every state of a run, with or without clock changes, a query of package stats answers the same
whether or not the service saves just before it. -/
theorem queryBundleStatsInfos_restoreStats {Allowed : ServiceState → ServiceOp → Prop}
    (run : Run tz Allowed s) {intervalType : ℤ} (hi : IntervalType.ofIndex intervalType = some i)
    (beginTime endTime userId : ℤ) (bundleName : String)
    (kept : ∀ t ∈ s.database.sortedTableArray i,
      t ∈ (s.restoreStats true).database.sortedTableArray i) :
    ((s.restoreStats true).queryBundleStatsInfos intervalType beginTime endTime userId
        bundleName).1 =
      (s.queryBundleStatsInfos intervalType beginTime endTime userId bundleName).1 := by
  have tidy := tidy_run tz run
  have hinterval : ∀ s : ServiceState, s.queriedInterval intervalType beginTime = some i := by
    intro s
    unfold queriedInterval
    rw [if_neg, hi]
    rintro rfl
    simp [periodBest, IntervalType.ofIndex] at hi
  obtain ⟨events, hstats⟩ := currentStats_restoreStats s true i
  have hhalf := queryDatabaseUsageStats_restoreStats tidy kept (b := beginTime)
    (min_le_left (s.currentStats i).beginTime endTime) userId bundleName
  have hend : (s.currentStats i).endTime ≠ 0 := (tidy.ends i).ne'
  unfold queryBundleStatsInfos
  simp only [hinterval, hstats, hhalf, if_neg hend]
  split_ifs <;> rfl

def usedBundle : List ServiceOp :=
  [.reportEvent
      { bundleName := "com.example.mail", abilityId := "1", eventId := .abilityForeground
        timeStamp := 1709280001000, uid := 20010001 },
    .restoreStats true,
    .reportEvent
      { bundleName := "com.example.mail", abilityId := "1", eventId := .abilityBackground
        timeStamp := 1709280061000, uid := 20010001 }]

def usedService : ServiceState :=
  usedBundle.foldl (ServiceState.apply utc) (init utc {} 100 false 1709280000000)

theorem run_usedService : Run utc (fun _ _ => True) usedService :=
  (Run.init {} 100 false 1709280000000 (by decide)).foldl utc usedBundle (by decide)

theorem queryBundleStatsInfos_restoreStats_usedService :
    ((usedService.restoreStats true).queryBundleStatsInfos 0 1709280000000 1709290000000 100 "").1 =
      (usedService.queryBundleStatsInfos 0 1709280000000 1709290000000 100 "").1 :=
  queryBundleStatsInfos_restoreStats utc run_usedService (i := .daily) rfl _ _ _ _
    (by decide +kernel)

end ServiceState
end DeviceUsageStats
