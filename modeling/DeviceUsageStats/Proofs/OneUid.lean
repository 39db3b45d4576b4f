import DeviceUsageStats.Proofs.RunningSessions
import DeviceUsageStats.Sanity.PeriodEntries
import DeviceUsageStats.Sanity.UsageKeys

/-! Bundle names with one uid each. The uid of every entry and of every row of the user is in the
process-wide set of its name, and a report adds only the uid of its own event, so the sets stay within
the bundles of the events; a rollover then gets to every running session. -/

namespace DeviceUsageStats

namespace DatabaseState

variable {d : DatabaseState} {i : IntervalType} {x : ℤ} {row : PackageLogRow}

theorem mem_rows_updateBundleUsageData (hd : d.ArraysSorted) {p : BundleActivePeriodStats}
    (hp : Keyed p.bundleStats)
    (hrow : row ∈ ((d.updateBundleUsageData i p).packageTables i).rows x) :
    row ∈ flushedValues p ∨ row ∈ (d.packageTables i).rows x := by
  rw [updateBundleUsageData_eq hd] at hrow
  have hadd : ∀ y : ℤ, row ∈ ((if p.beginTime ∈ d.sortedTableArray i then d
        else d.addPackageTable i p.beginTime).packageTables i).rows y →
      row ∈ (d.packageTables i).rows y := by
    intro y hy
    split_ifs at hy with hmem
    · exact hy
    · unfold Tables.rows at hy ⊢
      rw [(addPackageTable_spec d i p.beginTime).2] at hy
      split_ifs at hy
      · cases hy
      · exact hy
      · exact hy
  set d' := if p.beginTime ∈ d.sortedTableArray i then d else d.addPackageTable i p.beginTime
  unfold Tables.rows at hrow
  rw [getElem?_flushPackageInfo] at hrow
  split_ifs at hrow with hx
  · cases hrows : (d'.packageTables i)[x]? with
    | none =>
      rw [hrows] at hrow
      cases hrow
    | some rows =>
      rw [hrows, Option.map_some, Option.getD_some, flushPackageRows_eq hp] at hrow
      refine (Upsert.mem_of_mem_upsert hrow).symm.imp_right fun h => hadd x ?_
      rw [Tables.rows, hrows]
      exact h
  · exact .inr (hadd x hrow)

theorem getElem?_removeOldData (d : DatabaseState) (t : ℤ) (i : IntervalType) (x : ℤ) :
    ((d.removeOldData t).packageTables i)[x]? = none ∨
      ((d.removeOldData t).packageTables i)[x]? = (d.packageTables i)[x]? := by
  rw [(sameType_removeOldData d t i).tables, (deleteExcessiveTableData_spec _ i).2,
    (handleTableInfo_spec _ i).2, getElem?_removeOverdueTables]
  split_ifs
  · exact .inl rfl
  · exact .inl rfl
  · exact .inr rfl

theorem mem_rows_removeOldData {t : ℤ}
    (hrow : row ∈ ((d.removeOldData t).packageTables i).rows x) :
    row ∈ (d.packageTables i).rows x := by
  unfold Tables.rows at hrow ⊢
  rcases getElem?_removeOldData d t i x with h | h
  · rw [h] at hrow
    cases hrow
  · rwa [h] at hrow

end DatabaseState

namespace ServiceState

open PackageContainUidMap (getPackageUidSet mem_insertPackageUid)

variable (tz : TimeZone) {s s' : ServiceState} {i : IntervalType}

/-- The uid of every entry and of every row of the user is known for its name. -/
structure UidsKnown (s : ServiceState) : Prop where
  entries : ∀ i (k : String) e, (s.currentStats i).bundleStats[k]? = some e →
    e.uid ∈ getPackageUidSet s.packageContainUidMap e.bundleName
  rows : ∀ i x, ∀ row ∈ (s.files.packageTables i).rows x, row.userId = s.userId →
    row.uid ∈ getPackageUidSet s.packageContainUidMap row.bundleName

theorem UidsKnown.congr (h : s.UidsKnown)
    (stats : ∀ i, (s'.currentStats i).bundleStats = (s.currentStats i).bundleStats)
    (files : s'.files = s.files) (userId : s'.userId = s.userId)
    (uids : s'.packageContainUidMap = s.packageContainUidMap) : s'.UidsKnown := by
  refine ⟨fun i k e hk => ?_, fun i x row hrow huser => ?_⟩
  · rw [stats] at hk
    exact uids ▸ h.entries i k e hk
  · rw [files] at hrow
    exact uids ▸ h.rows i x row hrow (huser.trans userId)

theorem UidsKnown.updateStats (h : s.UidsKnown) (i : IntervalType) (b n : String) (t : ℤ)
    (ev : EventId) (a : String) (uid : ℤ) : (updateStats i b n t ev a uid s).UidsKnown := by
  have huids : UidsFrom (fun _ _ => True) s (ServiceState.updateStats i b n t ev a uid s) :=
    uidsFrom_updateStats i b n t ev a uid s trivial
  have hmemory := memoryOnly_updateStats i b n t ev a uid s
  refine ⟨fun j k e hk => ?_, fun j x row hrow huser => ?_⟩
  · let event : BundleActiveEvent :=
      { bundleName := b, continuousTaskAbilityName := n, timeStamp := t, eventId := ev
        abilityId := a, uid := uid }
    have hentry : updatedEntry k event (s.entryOf k j) = some e ∧ j = i ∨
        s.entryOf k j = some e := by
      have heq := (entryOf_updateStats s event i j k).symm.trans hk
      split_ifs at heq with hj
      · exact .inl ⟨heq, hj⟩
      · exact .inr heq
    rcases hentry with ⟨hentry, rfl⟩ | hentry
    · unfold updatedEntry at hentry
      split_ifs at hentry with htick hown
      · obtain ⟨e₀, hk₀, rfl⟩ := Option.map_eq_some_iff.1 hentry
        have hgrows := e₀.grows_update "" event.timeStamp event.eventId event.abilityId
        rw [hgrows.bundleName, hgrows.uid]
        exact huids.kept _ _ (h.entries j k e₀ hk₀)
      · obtain rfl := Option.some.inj hentry
        have hgrows := ((s.entryOf k j).getD { bundleName := b, uid := uid }).grows_update n t ev a
        rw [hgrows.bundleName, hgrows.uid]
        cases hk₀ : s.entryOf k j with
        | some e₀ => exact huids.kept _ _ (h.entries j k e₀ hk₀)
        | none =>
          have hcreate : (ServiceState.updateStats j b n t ev a uid s).packageContainUidMap =
              s.packageContainUidMap.insertPackageUid b uid := by
            have hnone : (s.currentStats j).bundleStats[getBundleUsageKey b uid]? = none :=
              hown.2 ▸ hk₀
            have hbundle : ev.isBundleEvent = true := hown.1
            have htick : ¬ (ev = .shutdown ∨ ev = .flush) := htick
            simp only [ServiceState.updateStats, BundleActivePeriodStats.update, if_neg htick,
              BundleActivePeriodStats.getOrCreateUsageStats, hnone, hbundle, if_true]
          rw [hcreate]
          exact mem_insertPackageUid.2 (.inl ⟨rfl, rfl⟩)
      · exact huids.kept _ _ (h.entries j k e hentry)
    · exact huids.kept _ _ (h.entries j k e hentry)
  · rw [hmemory.files] at hrow
    exact huids.kept _ _ (h.rows j x row hrow (huser.trans hmemory.userId))

theorem keptByStats_uidsKnown : KeptByStats UidsKnown where
  updateStats i b n t ev a uid h := h.updateStats i b n t ev a uid
  incrementLaunch {s} i key h := by
    refine ⟨fun j k e hk => ?_, h.rows⟩
    by_cases hj : j = i
    · subst hj
      simp only [setStats, Function.update_self, Std.TreeMap.getElem?_modify] at hk
      split_ifs at hk with hkey
      · obtain ⟨e₀, hk₀, rfl⟩ := Option.map_eq_some_iff.1 hk
        exact h.entries j key e₀ hk₀
      · exact h.entries j k e hk
    · simp only [setStats, Function.update_of_ne hj] at hk
      exact h.entries j k e hk
  frame {s} i p h _ _ hstats _ := by
    refine h.congr (fun j => ?_) rfl rfl rfl
    by_cases hj : j = i
    · subst hj
      simpa [setStats] using hstats
    · simp [setStats, hj]
  notifyStatsChanged {s} h := by
    have hnotify := flushed_notifyStatsChanged s
    refine h.congr (fun i => ?_) hnotify.files hnotify.userId hnotify.uids
    unfold ServiceState.notifyStatsChanged
    split_ifs <;> rfl
  lastForeground _ h := h.congr (fun _ => rfl) rfl rfl rfl

/-! ### Saves and loads -/

theorem UidsKnown.restoreStats (h : s.UidsKnown) (tidy : s.Tidy)
    (keyed : ∀ i, Keyed (s.currentStats i).bundleStats) (forced : Bool) :
    (s.restoreStats forced).UidsKnown := by
  by_cases hf : s.statsChanged = true ∨ forced = true
  · have hsame : s.restoreStats forced = s.restoreStats true := by
      simp only [ServiceState.restoreStats, hf, or_true, if_true]
    obtain ⟨huser, -, huids⟩ := restoreStats_user s true
    rw [hsame]
    refine ⟨fun i k e hk => ?_, fun i x row hrow hrowUser => ?_⟩
    · obtain ⟨events, hstats⟩ := currentStats_restoreStats s true i
      rw [hstats] at hk
      rw [huids]
      exact h.entries i k e hk
    · have htables := (restoreStats_packages s i).2 x
      rw [huids]
      change row ∈ ((s.restoreStats true).databaseState.packageTables i).rows x at hrow
      rw [Tables.rows_eq_of_getElem? _ _ htables, savedPackages] at hrow
      split_ifs at hrow
      · exact h.rows i x row hrow (hrowUser.trans huser)
      · rcases DatabaseState.mem_rows_updateBundleUsageData tidy.arrays (keyed i) hrow with
          hvalue | hold
        · obtain ⟨k, e, hk, -, rfl⟩ := DatabaseState.mem_flushedValues.1 hvalue
          exact h.entries i k e hk
        · exact h.rows i x row hold (hrowUser.trans huser)
  · rw [ServiceState.restoreStats, if_neg hf]
    exact h

theorem mem_rows_of_loadedPeriod {t : ℤ} {k : String} {e : BundleActivePackageStats}
    (hk : (loadedPeriod tz t s i).bundleStats[k]? = some e) :
    ∃ x, ∃ row ∈ (s.files.packageTables i).rows x,
      row.userId = s.userId ∧ row.bundleName = e.bundleName ∧ row.uid = e.uid := by
  unfold loadedPeriod DatabaseState.getCurrentUsageData at hk
  split at hk
  · rename_i stats hstats
    obtain ⟨hsome, -⟩ := Option.filter_eq_some_iff.1 hstats
    split at hsome
    · cases hsome
    · rename_i x _
      cases hsome
      simp only [DatabaseState.getElem?_loadedBundleStats_filter, Option.map_eq_some_iff] at hk
      obtain ⟨row, hrow, rfl⟩ := hk
      have hkey : PackageLogRow.userKey row.ident = (s.userId, k) := by
        simpa using List.find?_some hrow
      exact ⟨x, row, List.mem_of_find?_eq_some hrow, (Prod.mk.inj hkey).1, rfl, rfl⟩
  · simp at hk

theorem UidsKnown.setDatabase (h : s.UidsKnown) {d : DatabaseState}
    (rows : ∀ i x, ∀ row ∈ (d.packageTables i).rows x, row ∈ (s.files.packageTables i).rows x) :
    (s.setDatabase d).UidsKnown :=
  ⟨h.entries, fun i x row hrow huser => h.rows i x row (rows i x row hrow) huser⟩

theorem UidsKnown.loadActiveStats (h : s.UidsKnown) (t : ℤ) (force timeChanged : Bool) :
    (s.loadActiveStats tz t force timeChanged).UidsKnown := by
  obtain ⟨hpackages, huser, -⟩ := loadActiveStats_source tz s t force timeChanged
  have huids := (uidsFrom_loadActiveStats tz s t force timeChanged).kept
  refine ⟨fun i k e hk => huids _ _ ?_, fun i x row hrow hrowUser => huids _ _ ?_⟩
  · rw [currentStats_loadActiveStats] at hk
    split_ifs at hk
    · exact h.entries i k e hk
    · obtain ⟨x, row, hrow, hrowUser, hname, huid⟩ := mem_rows_of_loadedPeriod tz hk
      exact hname ▸ huid ▸ h.rows i x row hrow hrowUser
  · have htables : (s.loadActiveStats tz t force timeChanged).files.packageTables =
        s.files.packageTables := hpackages.tables
    rw [htables] at hrow
    exact h.rows i x row hrow (hrowUser.trans huser)

/-- A tidy service under whose keys the entries stand, with all uids known. -/
structure Told (s : ServiceState) : Prop where
  tidy : s.Tidy
  held : s.Holds fun k e => getBundleUsageKey e.bundleName e.uid = k
  known : s.UidsKnown

theorem Told.restoreStats (h : s.Told) (forced : Bool) : (s.restoreStats forced).Told :=
  ⟨h.tidy.restoreStats forced, h.held.restoreStats forced,
    h.known.restoreStats h.tidy h.held.entries forced⟩

theorem Told.saveAndReload (h : s.Told) {t : ℤ} (ht : 0 < t) : (s.saveAndReload tz t).Told := by
  refine ⟨h.tidy.saveAndReload tz ht, entryKept_key.saveAndReload tz h.held t, ?_⟩
  have hsaved : (s.saved t).UidsKnown := (h.restoreStats true).known.setDatabase
    fun i x row hrow => DatabaseState.mem_rows_removeOldData hrow
  exact hsaved.loadActiveStats tz t false false

theorem keptByStats_told : KeptByStats Told where
  updateStats i b n t e a uid h := ⟨keptInMemory_tidy.updateStats i b n t e a uid h.tidy,
    entryKept_key.keptInMemory.updateStats i b n t e a uid h.held,
    keptByStats_uidsKnown.updateStats i b n t e a uid h.known⟩
  incrementLaunch i key h := ⟨keptInMemory_tidy.incrementLaunch i key h.tidy,
    entryKept_key.keptInMemory.incrementLaunch i key h.held,
    keptByStats_uidsKnown.incrementLaunch i key h.known⟩
  frame i p h hu hb hs he := ⟨keptInMemory_tidy.frame i p h.tidy hu hb hs he,
    entryKept_key.keptInMemory.frame i p h.held hu hb hs he,
    keptByStats_uidsKnown.frame i p h.known hu hb hs he⟩
  notifyStatsChanged h := ⟨keptInMemory_tidy.notifyStatsChanged h.tidy,
    entryKept_key.keptInMemory.notifyStatsChanged h.held,
    keptByStats_uidsKnown.notifyStatsChanged h.known⟩
  lastForeground b h := ⟨keptInMemory_tidy.lastForeground b h.tidy,
    entryKept_key.keptInMemory.lastForeground b h.held,
    keptByStats_uidsKnown.lastForeground b h.known⟩

theorem Told.reportEvent (h : s.Told) {event : BundleActiveEvent} (ht : 0 < event.timeStamp) :
    (s.reportEvent tz event).Told :=
  keptByStats_told.reportEvent tz event <| keptByStats_told.renewIfExpired tz
    (fun _ forced h => h.restoreStats forced) (fun _ h => h.saveAndReload tz ht) h

/-! ### The uids that a report adds -/

theorem UidsKnown.of_storedUid (h : s.UidsKnown) {n : String} {v : ℤ} (hv : s.StoredUid i n v) :
    v ∈ getPackageUidSet s.packageContainUidMap n := by
  rcases hv with ⟨k, e, hk, rfl, rfl⟩ | ⟨x, -, row, hrow, huser, rfl, rfl⟩
  · exact h.entries i k e hk
  · exact h.rows i x row hrow huser

theorem Told.uidsFrom_renewStatsInMemory (h : s.Told) (known : s.Holds fun _ e => e.StatesKnown)
    (t : ℤ) : UidsFrom (fun _ _ => False) s (s.renewStatsInMemory tz t) := by
  have hflushed := flushed_flushDataInMem h.held.entries
  have hcaptured := statesCaptured_flushDataInMem h.held.entries known
  unfold renewStatsInMemory
  generalize s.flushDataInMem = cs at hflushed hcaptured ⊢
  have hstarts := starts_continueBundles hcaptured (cs.2.saveAndReload tz t)
  simp only
  constructor <;> intro n v hv
  · rw [(restoreStats_user _ true).2.2]
    exact (hstarts.uids n v).2 (kept_uids_saveAndReload tz hflushed hv)
  · rw [(restoreStats_user _ true).2.2] at hv
    refine .inl ?_
    rcases mem_uids_saveAndReload tz hflushed h.tidy h.held.entries ((hstarts.uids n v).1 hv) with
      hv | ⟨i, -, hv⟩
    · exact hv
    · exact h.known.of_storedUid hv

def Names (event : BundleActiveEvent) (n : String) (v : ℤ) : Prop :=
  event.eventId.isBundleEvent = true ∧ n = event.bundleName ∧ v = event.uid

theorem uidsFrom_updatePeriodStatsOf (event : BundleActiveEvent) (launch : Bool)
    (s : ServiceState) (i : IntervalType) :
    UidsFrom (Names event) s (updatePeriodStatsOf event launch s i) := by
  have hupdate : UidsFrom (Names event) s (updateStats i event.bundleName
      event.continuousTaskAbilityName event.timeStamp event.eventId event.abilityId event.uid s) := by
    by_cases hbundle : event.eventId.isBundleEvent = true
    · exact uidsFrom_updateStats i _ _ _ _ _ _ s ⟨hbundle, rfl, rfl⟩
    · refine .of_eq ?_
      unfold updateStats BundleActivePeriodStats.update
      simp only
      split_ifs <;> rfl
  unfold updatePeriodStatsOf
  simp only
  split
  all_goals first
    | exact .of_eq rfl
    | skip
  split_ifs
  · exact hupdate.trans (.of_eq rfl)
  · exact hupdate

theorem uidsFrom_updatePeriodStats (s : ServiceState) (event : BundleActiveEvent) (launch : Bool) :
    UidsFrom (Names event) s (s.updatePeriodStats event launch) := by
  have hloop : UidsFrom (Names event) s
      (IntervalType.all.foldl (updatePeriodStatsOf event launch) s) :=
    List.foldlRecOn _ _ (.refl _ s) fun s' h i _ =>
      h.trans (uidsFrom_updatePeriodStatsOf event launch s' i)
  unfold updatePeriodStats
  simp only
  split_ifs
  · exact hloop.trans (.of_eq (flushed_notifyStatsChanged _).uids)
  · exact hloop

theorem Told.uidsFrom_reportEvent (h : s.Told) (known : s.Holds fun _ e => e.StatesKnown)
    (event : BundleActiveEvent) : UidsFrom (Names event) s (s.reportEvent tz event) := by
  have hrenew : UidsFrom (Names event) s (s.renewIfExpired tz event.timeStamp) := by
    unfold renewIfExpired
    split_ifs
    · exact (h.uidsFrom_renewStatsInMemory tz known event.timeStamp).mono fun _ _ => False.elim
    · exact .refl _ s
  simp only [ServiceState.reportEvent]
  set s₁ := s.renewIfExpired tz event.timeStamp
  have hadd : UidsFrom (Names event) s₁
      (if event.eventId ≠ .systemInteractive ∧ event.eventId ≠ .flush then s₁.addDailyEvent event
        else s₁) := by
    split_ifs
    · exact .of_eq rfl
    · exact .refl _ s₁
  set s₂ := if event.eventId ≠ .systemInteractive ∧ event.eventId ≠ .flush then
    s₁.addDailyEvent event else s₁
  refine (hrenew.trans hadd).trans ?_
  split_ifs
  · have hlast : UidsFrom (Names event) s₂ { s₂ with lastForegroundBundle := event.bundleName } :=
      .of_eq rfl
    exact hlast.trans (uidsFrom_updatePeriodStats _ event true)
  · exact uidsFrom_updatePeriodStats s₂ event false

/-! ### Names with one uid -/

/-- The names and the uids that are known are those of some bundles. -/
def UidsWithin (bundles : Set (String × ℤ)) (s : ServiceState) : Prop :=
  ∀ n, ∀ v ∈ getPackageUidSet s.packageContainUidMap n, (n, v) ∈ bundles

variable {bundles : Set (String × ℤ)}

theorem UidsWithin.reportEvent (within : s.UidsWithin bundles) (h : s.Told)
    (known : s.Holds fun _ e => e.StatesKnown) {event : BundleActiveEvent}
    (named : event.eventId.isBundleEvent = true → (event.bundleName, event.uid) ∈ bundles) :
    (s.reportEvent tz event).UidsWithin bundles := by
  intro n v hv
  rcases (h.uidsFrom_reportEvent tz known event).from_fresh n v hv with hv | ⟨hbundle, rfl, rfl⟩
  · exact within n v hv
  · exact named hbundle

/-- With one uid for each name a rollover gets to every running session. -/
theorem UidsWithin.sessionsReached (within : s.UidsWithin bundles)
    (oneUid : ∀ n v v', (n, v) ∈ bundles → (n, v') ∈ bundles → v = v') (h : s.Told) (t : ℤ) :
    s.SessionsReached tz t := by
  intro i k e x hk hruns
  have huid := h.known.entries i k e hk
  refine .inr ⟨huid, fun v _ hv => ?_⟩
  have hknown : v ∈ getPackageUidSet s.packageContainUidMap e.bundleName := by
    rcases hv with hv | ⟨j, -, hv⟩
    · exact hv
    · exact h.known.of_storedUid hv
  have heq : v = e.uid := oneUid e.bundleName v e.uid (within _ v hknown) (within _ e.uid huid)
  refine someKnown_of_runs (i := i) ?_
  rw [heq, h.held.entries i k e hk]
  exact ⟨e, hk, hruns⟩

theorem UidsWithin.own (within : s.UidsWithin bundles) (h : s.Told) {n : String} {u : ℤ}
    (apart : ∀ n' v', (n', v') ∈ bundles → getBundleUsageKey n' v' = getBundleUsageKey n u → n' = n)
    {e : BundleActivePackageStats}
    (hk : (s.currentStats i).bundleStats[getBundleUsageKey n u]? = some e) :
    e.bundleName = n ∧ e.uid = u := by
  have hkey : getBundleUsageKey e.bundleName e.uid = getBundleUsageKey n u :=
    h.held.entries i _ e hk
  have hname := apart e.bundleName e.uid (within _ _ (h.known.entries i _ e hk)) hkey
  rw [hname] at hkey
  exact ⟨hname, getBundleUsageKey_uid_inj hkey⟩

end ServiceState
end DeviceUsageStats
