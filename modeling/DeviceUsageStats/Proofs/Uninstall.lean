import DeviceUsageStats.Proofs.PackageQueries
import DeviceUsageStats.Proofs.UninstallFrame
import DeviceUsageStats.Sanity.KeyedRecords
import DeviceUsageStats.Sanity.UsageKeys

/-! The removal of a bundle from a service. The statistics and events in memory are removed by the uids
that the process knows for the bundle, the rows by the tables that the database object knows: nothing is
left exactly if both know everything. -/

namespace DeviceUsageStats

/-! ### Rows -/

structure RowsErased (files : DatabaseFiles) (userId : ℤ) (bundleName : String) : Prop where
  packages : ∀ i, ∀ table ∈ (files.packageTables i).toList, ∀ row ∈ table.2,
    ¬ (row.userId = userId ∧ row.bundleName = bundleName)
  events : ∀ table ∈ files.eventTables.toList, ∀ row ∈ table.2,
    ¬ (row.userId = userId ∧ row.bundleName = bundleName)
  modules : ∀ table ∈ files.moduleTables, ∀ row ∈ table.2,
    ¬ (row.userId = userId ∧ row.bundleName = bundleName)
  forms : ∀ table ∈ files.formTables, ∀ row ∈ table.2,
    ¬ (row.userId = userId ∧ row.bundleName = bundleName)

/-- The rows of the bundle for the user stand in tables that the object has in its cache. -/
structure RowsListed (d : DatabaseState) (userId : ℤ) (bundleName : String) : Prop where
  packages : ∀ i, ∀ table ∈ (d.packageTables i).toList, ∀ row ∈ table.2,
    row.userId = userId ∧ row.bundleName = bundleName → table.1 ∈ d.sortedTableArray i
  events : ∀ table ∈ d.eventTables.toList, ∀ row ∈ table.2,
    row.userId = userId ∧ row.bundleName = bundleName → d.eventTableName = some table.1
  modules : ∀ table ∈ d.moduleTables, ∀ row ∈ table.2,
    row.userId = userId ∧ row.bundleName = bundleName → d.moduleRecordsTableName = some table.1
  forms : ∀ table ∈ d.formTables, ∀ row ∈ table.2,
    row.userId = userId ∧ row.bundleName = bundleName → d.formRecordsTableName = some table.1

theorem rowsErased_onPackageUninstalled_iff (d : DatabaseState) (u : ℤ) (b : String) (uid : ℤ) :
    RowsErased (d.onPackageUninstalled u b uid 0).toDatabaseFiles u b ↔ RowsListed d u b := by
  have h := d.noRowOf_onPackageUninstalled_iff u b uid 0
    (fun rowUser rowName => rowUser = u ∧ rowName = b) fun rowUser rowName rowUid hrow => by
      unfold DatabaseState.uninstalledRow
      rw [if_pos rfl]
      split_ifs
      · exact decide_eq_true hrow.1
      · exact decide_eq_true hrow
  exact ⟨fun he => have hl := h.1 ⟨he.packages, he.events, he.modules, he.forms⟩
      ⟨hl.packages, hl.events, hl.modules, hl.forms⟩,
    fun hl => have he := h.2 ⟨hl.packages, hl.events, hl.modules, hl.forms⟩
      ⟨he.packages, he.events, he.modules, he.forms⟩⟩

namespace ServiceState

variable {tz : TimeZone} {s : ServiceState} {b : String}

/-! ### The memory -/

/-- Nothing of a bundle is left in a service and for its user. -/
structure BundleErased (s : ServiceState) (bundleName : String) : Prop where
  stats : ∀ i, ∀ entry ∈ (s.currentStats i).bundleStats.toList, entry.2.bundleName ≠ bundleName
  events : ∀ i, ∀ event ∈ (s.currentStats i).events.events, event.bundleName ≠ bundleName
  records : ∀ entry ∈ s.moduleRecords.toList, entry.2.bundleName ≠ bundleName
  rows : RowsErased s.files s.userId bundleName

/-- The process knows the uids of the bundle that the memory holds, and the database object the tables
that hold its rows. -/
structure BundleKnown (s : ServiceState) (bundleName : String) : Prop where
  stats : ∀ i, ∀ entry ∈ (s.currentStats i).bundleStats.toList, entry.2.bundleName = bundleName →
    entry.2.uid ∈ s.packageContainUidMap.getPackageUidSet bundleName
  events : ∀ i, ∀ event ∈ (s.currentStats i).events.events, event.bundleName = bundleName →
    event.uid ∈ s.packageContainUidMap.getPackageUidSet bundleName
  rows : RowsListed s.databaseState s.userId bundleName

theorem stats_erased_iff {p : BundleActivePeriodStats} (hp : Keyed p.bundleStats) (uid : ℤ) :
    (∀ entry ∈ (s.deleteMemUsageStats b uid 0 p).bundleStats.toList, entry.2.bundleName ≠ b) ↔
      ∀ entry ∈ p.bundleStats.toList, entry.2.bundleName = b →
        entry.2.uid ∈ s.packageContainUidMap.getPackageUidSet b := by
  set uidSet := s.packageContainUidMap.getPackageUidSet b with huidSet
  have hread : ∀ k : String, (s.deleteMemUsageStats b uid 0 p).bundleStats[k]? =
      if k ∈ uidSet.toList.map (getBundleUsageKey b) then none else p.bundleStats[k]? :=
    Entries.getElem?_foldl_erase (getBundleUsageKey b) uidSet.toList p.bundleStats
  constructor
  · intro h entry hentry hname
    by_contra hnot
    refine h entry ?_ hname
    rw [Std.TreeMap.mem_toList_iff_getElem?_eq_some] at hentry ⊢
    rw [hread, if_neg, hentry]
    -- the key of the entry has no other reading under the name of the bundle
    intro hkey
    obtain ⟨v, hv, heq⟩ := List.mem_map.1 hkey
    have hown := hp entry.1 entry.2 hentry
    rw [hname, ← heq] at hown
    rw [getBundleUsageKey_uid_inj hown] at hnot
    exact hnot (Std.TreeSet.mem_toList.1 hv)
  · intro h entry hentry hname
    rw [Std.TreeMap.mem_toList_iff_getElem?_eq_some, hread] at hentry
    split_ifs at hentry with hkey
    refine hkey (List.mem_map.2 ⟨entry.2.uid, ?_, ?_⟩)
    · exact Std.TreeSet.mem_toList.2
        (h entry (Std.TreeMap.mem_toList_iff_getElem?_eq_some.2 hentry) hname)
    · rw [← hname]
      exact hp entry.1 entry.2 hentry

theorem events_erased_iff (s : ServiceState) (p : BundleActivePeriodStats) (uid : ℤ) :
    (∀ event ∈ (s.deleteMemEvent b uid 0 p).events.events, event.bundleName ≠ b) ↔
      ∀ event ∈ p.events.events, event.bundleName = b →
        event.uid ∈ s.packageContainUidMap.getPackageUidSet b := by
  unfold deleteMemEvent BundleActiveEventList.eraseIf
  simp only [ne_eq, not_true_eq_false, if_false, List.mem_filter]
  refine forall_congr' fun event => ?_
  by_cases hname : event.bundleName = b
  · simp [hname]
  · simp [hname]

theorem records_erased (h : KeyedRecords s.moduleRecords) (b : String) (uid : ℤ) :
    ∀ entry ∈ (s.deleteMemRecords b uid 0).moduleRecords.toList, entry.2.bundleName ≠ b := by
  intro entry hentry hname
  rw [Std.TreeMap.mem_toList_iff_getElem?_eq_some] at hentry
  unfold deleteMemRecords at hentry
  simp only at hentry
  rw [Entries.getElem?_eraseEntries] at hentry
  obtain ⟨hentry, hpattern⟩ := Option.filter_eq_some_iff.1 hentry
  have hkey := h entry.1 entry.2 hentry
  have hsub : isSubstringOf b entry.1 = true := by
    refine decide_eq_true ?_
    rw [← hkey, hname, combinedInfo]
    simp only [String.toList_append, List.append_assoc]
    exact (List.prefix_append ..).isInfix
  simp [hsub] at hpattern

/-- A removal leaves nothing of the bundle exactly if the process and the database object know all. -/
theorem bundleErased_iff {Allowed : ServiceState → ServiceOp → Prop} (run : Run tz Allowed s)
    (b : String) (uid : ℤ) :
    BundleErased (s.deleteUninstalledBundleStats b uid 0) b ↔ BundleKnown s b := by
  have hstats := fun i => stats_erased_iff (s := s) (b := b) ((owned_run tz run).keyed i) uid
  have hevents := fun i =>
    events_erased_iff (b := b) s (s.deleteMemUsageStats b uid 0 (s.currentStats i)) uid
  have hrows := rowsErased_onPackageUninstalled_iff s.databaseState s.userId b uid
  constructor
  · intro h
    refine ⟨fun i => (hstats i).1 fun entry hentry => ?_, fun i => (hevents i).1 fun event hevent => ?_,
      hrows.1 h.rows⟩
    · refine h.stats i entry ?_
      rw [currentStats_deleteUninstalled]
      exact hentry
    · refine h.events i event ?_
      rw [currentStats_deleteUninstalled]
      exact hevent
  · intro h
    refine ⟨fun i => ?_, fun i => ?_, records_erased (keyedRecords_run tz run) b uid, hrows.2 h.rows⟩
    · rw [currentStats_deleteUninstalled]
      exact (hstats i).2 (h.stats i)
    · rw [currentStats_deleteUninstalled]
      exact (hevents i).2 (h.events i)

/-- A bundle that was in the foreground is known by its uid. -/
theorem bundleErased_usedService :
    BundleErased (usedService.deleteUninstalledBundleStats "com.example.mail" 20010001 0)
      "com.example.mail" := by
  refine (bundleErased_iff run_usedService "com.example.mail" 20010001).2 ⟨?_, ?_, ?_⟩
  · intro i
    cases i <;> decide +kernel
  · intro i
    cases i <;> decide +kernel
  · refine ⟨fun i => ?_, by decide +kernel, by decide +kernel, by decide +kernel⟩
    cases i <;> decide +kernel

/-- A service that has only seen a notification of a bundle. -/
def notifiedService : ServiceState :=
  (init utc {} 100 false 1709280000000).reportEvent utc
    { bundleName := "com.example.mail", eventId := .notificationSeen, timeStamp := 1709280001000
      uid := 20010001 }

/-- The event stays: a notification makes no entry, so the process does not know the uid. -/
theorem not_bundleErased_notifiedService :
    Run utc (fun _ _ => True) notifiedService ∧
      ¬ BundleErased (notifiedService.deleteUninstalledBundleStats "com.example.mail" 20010001 0)
        "com.example.mail" := by
  constructor
  · exact .step (.reportEvent _) (.init {} 100 false 1709280000000 (by decide)) (by decide) trivial
  · intro h
    have hevents := h.events .daily
    revert hevents
    decide +kernel

end ServiceState

end DeviceUsageStats
