import DeviceUsageStats.Sanity.StoredRows

/-! The process-wide sets of uids during a rollover. An update adds the uid of its own bundle, a load
the uids of the rows that it reads, and a load after a save reads the newest table, whose rows were
there before or are the entries that the save has written. -/

namespace DeviceUsageStats

theorem PackageContainUidMap.mem_insertPackageUid {uids : PackageContainUidMap} {b n : String}
    {u v : ℤ} : v ∈ getPackageUidSet (insertPackageUid uids b u) n ↔
      n = b ∧ v = u ∨ v ∈ getPackageUidSet uids n := by
  unfold insertPackageUid getPackageUidSet
  rw [Std.TreeMap.getElem?_insert]
  split_ifs with h
  · obtain rfl := Std.LawfulEqCmp.eq_of_compare h
    simp [Std.TreeSet.mem_insert, Std.LawfulEqCmp.compare_eq_iff_eq, eq_comm (a := u)]
  · have hne : ¬ n = b := fun hn => h (hn ▸ Std.ReflCmp.compare_self)
    simp [hne]

namespace ServiceState

open PackageContainUidMap (mem_insertPackageUid getPackageUidSet)

variable (tz : TimeZone) {s s' s'' : ServiceState} {fresh : String → ℤ → Prop}

/-- The uids known are those known before and maybe some fresh ones. -/
structure UidsFrom (fresh : String → ℤ → Prop) (s s' : ServiceState) : Prop where
  kept : ∀ n, ∀ v ∈ getPackageUidSet s.packageContainUidMap n,
    v ∈ getPackageUidSet s'.packageContainUidMap n
  from_fresh : ∀ n, ∀ v ∈ getPackageUidSet s'.packageContainUidMap n,
    v ∈ getPackageUidSet s.packageContainUidMap n ∨ fresh n v

theorem UidsFrom.refl (fresh : String → ℤ → Prop) (s : ServiceState) : UidsFrom fresh s s :=
  ⟨fun _ _ h => h, fun _ _ h => .inl h⟩

theorem UidsFrom.trans (h : UidsFrom fresh s s') (h' : UidsFrom fresh s' s'') :
    UidsFrom fresh s s'' :=
  ⟨fun n v hv => h'.kept n v (h.kept n v hv), fun n v hv =>
    (h'.from_fresh n v hv).elim (h.from_fresh n v) .inr⟩

theorem UidsFrom.mono {fresh' : String → ℤ → Prop} (h : UidsFrom fresh s s')
    (hf : ∀ n v, fresh n v → fresh' n v) : UidsFrom fresh' s s' :=
  ⟨h.kept, fun n v hv => (h.from_fresh n v hv).imp_right (hf n v)⟩

theorem UidsFrom.of_eq (h : s'.packageContainUidMap = s.packageContainUidMap) :
    UidsFrom fresh s s' := by
  constructor <;> rw [h]
  · exact fun _ _ hv => hv
  · exact fun _ _ hv => .inl hv

theorem uidsFrom_updateStats (i : IntervalType) (b n : String) (t : ℤ) (e : EventId) (a : String)
    (uid : ℤ) (s : ServiceState) (h : fresh b uid) :
    UidsFrom fresh s (updateStats i b n t e a uid s) := by
  have hcreate : ((s.currentStats i).getOrCreateUsageStats s.packageContainUidMap b uid).2 =
        s.packageContainUidMap ∨
      ((s.currentStats i).getOrCreateUsageStats s.packageContainUidMap b uid).2 =
        s.packageContainUidMap.insertPackageUid b uid := by
    unfold BundleActivePeriodStats.getOrCreateUsageStats
    split
    · exact .inl rfl
    · exact .inr rfl
  have hmap : (updateStats i b n t e a uid s).packageContainUidMap = s.packageContainUidMap ∨
      (updateStats i b n t e a uid s).packageContainUidMap =
        s.packageContainUidMap.insertPackageUid b uid := by
    unfold updateStats BundleActivePeriodStats.update
    split_ifs
    · exact .inl rfl
    · exact hcreate
    · exact .inl rfl
  rcases hmap with hmap | hmap
  · exact .of_eq hmap
  · constructor <;> rw [hmap] <;> intro m v hv
    · exact mem_insertPackageUid.2 (.inr hv)
    · exact (mem_insertPackageUid.1 hv).elim (fun h' => .inr (h'.1 ▸ h'.2 ▸ h)) .inl

/-! ### Loads -/

/-- A uid of a row that a load of a type reads. -/
def ReadRow (s : ServiceState) (i : IntervalType) (n : String) (v : ℤ) : Prop :=
  ∃ x, (s.databaseState.sortedTableArray i).getLast? = some x ∧
    ∃ row ∈ (s.databaseState.packageTables i).rows x,
      row.userId = s.userId ∧ row.bundleName = n ∧ row.uid = v

theorem mem_foldl_insertPackageUid (rows : List PackageLogRow) (uids : PackageContainUidMap)
    (n : String) (v : ℤ) :
    v ∈ getPackageUidSet (rows.foldl (fun uids row =>
        PackageContainUidMap.insertPackageUid uids row.bundleName row.uid) uids) n ↔
      v ∈ getPackageUidSet uids n ∨ ∃ row ∈ rows, row.bundleName = n ∧ row.uid = v := by
  induction rows generalizing uids with
  | nil => simp
  | cons row rows ih =>
    rw [List.foldl_cons, ih, mem_insertPackageUid]
    simp only [List.mem_cons, exists_eq_or_imp, eq_comm (a := n), eq_comm (a := v)]
    tauto

theorem uidsFrom_loadActiveStatsOf (t : ℤ) (force : Bool) (s : ServiceState) (i : IntervalType) :
    UidsFrom (fun n v => ¬ Keeps tz t force s i ∧ ReadRow s i n v) s
      (loadActiveStatsOf tz t force s i) := by
  have hguard : (¬ force = true ∧ (s.currentStats i).beginTime =
      truncate tz s.debugUserService i t) ↔ Keeps tz t force s i := by simp [Keeps]
  unfold loadActiveStatsOf
  simp only
  by_cases h : Keeps tz t force s i
  · rw [if_pos (hguard.2 h)]
    exact .refl _ s
  · rw [if_neg fun h' => h (hguard.1 h')]
    have hread : ∀ n v, v ∈ getPackageUidSet
        (s.databaseState.getCurrentUsageData s.packageContainUidMap i s.userId).2.2 n ↔
        v ∈ getPackageUidSet s.packageContainUidMap n ∨ ReadRow s i n v := by
      intro n v
      unfold DatabaseState.getCurrentUsageData ReadRow
      cases (s.databaseState.sortedTableArray i).getLast? with
      | none => simp
      | some x =>
        simp only [mem_foldl_insertPackageUid, List.mem_filter, decide_eq_true_eq,
          Option.some.injEq, exists_eq_left', and_assoc]
    have huids : ∀ s₁ : ServiceState, s₁.packageContainUidMap =
        (s.databaseState.getCurrentUsageData s.packageContainUidMap i s.userId).2.2 →
        UidsFrom (fun n v => ¬ Keeps tz t force s i ∧ ReadRow s i n v) s s₁ := by
      intro s₁ hs₁
      constructor <;> rw [hs₁] <;> intro n v hv
      · exact (hread n v).2 (.inl hv)
      · exact ((hread n v).1 hv).imp_right fun hv => ⟨h, hv⟩
    cases ((s.databaseState.getCurrentUsageData s.packageContainUidMap i s.userId).1.filter
      fun stats => t > stats.beginTime ∧
        t < stats.beginTime + periodLength s.debugUserService i) with
    | some stats => exact huids _ rfl
    | none => exact huids _ rfl

theorem readRow_congr (h : SameSource s s') (i : IntervalType) : ReadRow s' i = ReadRow s i := by
  funext n v
  unfold ReadRow
  rw [h.packages.arrays, h.packages.tables, h.userId]

/-- A load adds the uids of the rows of the types that it does not keep. -/
theorem uidsFrom_loadActiveStats (s : ServiceState) (t : ℤ) (force timeChanged : Bool) :
    UidsFrom (fun n v => ∃ i, ¬ Keeps tz t force s i ∧ ReadRow s i n v) s
      (s.loadActiveStats tz t force timeChanged) := by
  have hloop : ∀ l : List IntervalType, l.Nodup → ∀ s₁, SameSource s s₁ →
      (∀ i ∈ l, s₁.currentStats i = s.currentStats i) →
      UidsFrom (fun n v => ∃ i, ¬ Keeps tz t force s i ∧ ReadRow s i n v) s₁
        (l.foldl (loadActiveStatsOf tz t force) s₁) := by
    intro l
    induction l with
    | nil => exact fun _ _ _ _ => .refl _ _
    | cons i l ih =>
      intro hl s₁ hsource hstats
      obtain ⟨hi, hl⟩ := List.nodup_cons.1 hl
      obtain ⟨hround, hround'⟩ := loadActiveStatsOf_spec tz t force s₁ i
      have hkeeps : Keeps tz t force s₁ i ↔ Keeps tz t force s i := by
        unfold Keeps
        rw [hstats i (List.mem_cons_self ..), hsource.debug]
      have hfirst : UidsFrom (fun n v => ∃ i, ¬ Keeps tz t force s i ∧ ReadRow s i n v) s₁
          (loadActiveStatsOf tz t force s₁ i) :=
        (uidsFrom_loadActiveStatsOf tz t force s₁ i).mono fun n v h =>
          ⟨i, fun h' => h.1 (hkeeps.2 h'), readRow_congr hsource i ▸ h.2⟩
      refine hfirst.trans (ih hl _ (hsource.trans hround) fun j hj => ?_)
      rw [hround', Function.update_of_ne fun h : j = i => hi (h ▸ hj)]
      exact hstats j (List.mem_cons_of_mem _ hj)
  have h := hloop IntervalType.all (by decide) s ⟨.refl _, rfl, rfl, rfl⟩ fun _ _ => rfl
  exact ⟨h.kept, h.from_fresh⟩

end ServiceState

/-! ### The rows that a rollover reads -/

namespace DatabaseState

variable {d : DatabaseState} {i : IntervalType} {x y : ℤ} {row : PackageLogRow}

/-- A table of a type without a newer one, but for tables that a cache full of later start times
drops. -/
def NewestTable (d : DatabaseState) (i : IntervalType) (x : ℤ) : Prop :=
  ∀ y ∈ d.packageTables i, x < y →
    maxFilesEveryIntervalType i ≤ ((d.sortedTableArray i).filter (y < ·)).length + 1

theorem le_length_filter_of_mem_take {l : List ℤ} (hl : l.Pairwise (· < ·)) {c : ℕ}
    (h : y ∈ l.take (l.length - c)) : c ≤ (l.filter (y < ·)).length := by
  have hsplit := List.take_append_drop (l.length - c) l
  have hdrop : ∀ z ∈ l.drop (l.length - c), y < z := by
    rw [← hsplit] at hl
    exact (List.pairwise_append.1 hl).2.2 y h
  have hall : (l.drop (l.length - c)).filter (y < ·) = l.drop (l.length - c) :=
    List.filter_eq_self.2 fun z hz => decide_eq_true (hdrop z hz)
  have hle : ((l.drop (l.length - c)).filter (y < ·)).length ≤ (l.filter (y < ·)).length :=
    (((List.drop_sublist _ l).filter _).length_le)
  have hlen := List.length_pos_of_mem h
  rw [hall, List.length_drop] at hle
  rw [List.length_take] at hlen
  omega

/-- After the removal of old tables the newest table of the cache is the newest of all. -/
theorem newest_removeOldData (t : ℤ)
    (hlast : ((d.removeOldData t).sortedTableArray i).getLast? = some x)
    (hrow : row ∈ ((d.removeOldData t).packageTables i).rows x) :
    row ∈ (d.packageTables i).rows x ∧ ∀ y ∈ d.packageTables i, y ≤ x := by
  have htype := sameType_removeOldData d t i
  rw [htype.arrays] at hlast
  rw [htype.tables] at hrow
  have hoverdue := getElem?_removeOverdueTables t d i
  have hd₁ := mem_removeOverdueTables t d i
  set threshold := (BundleActiveCalendar.increase { time := t, debug := d.debugDatabase } i
    (-1 * maxFilesEveryIntervalType i)).time
  set d₁ := removeOverdueTables t d i
  obtain ⟨harrays, htables⟩ := handleTableInfo_spec d₁ i
  obtain ⟨harrays', htables'⟩ := deleteExcessiveTableData_spec (d₁.handleTableInfo i) i
  have hrows : row ∈ (d₁.packageTables i).rows x ∧ x ∈ d₁.packageTables i := by
    have hread := htables' i x
    rw [htables] at hread
    split_ifs at hread with hdropped
    · rw [Tables.rows, hread] at hrow
      cases hrow
    · rw [Tables.rows_eq_of_getElem? _ _ hread] at hrow
      refine ⟨hrow, ?_⟩
      rw [Std.TreeMap.mem_iff_isSome_getElem?]
      cases hget : (d₁.packageTables i)[x]? with
      | some _ => rfl
      | none =>
        rw [Tables.rows, hget] at hrow
        cases hrow
  have hx := (hd₁ x).1 hrows.2
  constructor
  · have hread := hoverdue x
    rw [if_neg (not_lt.2 hx.2)] at hread
    rw [← Tables.rows_eq_of_getElem? _ _ hread]
    exact hrows.1
  · intro y hy
    by_cases hover : threshold ≤ y
    · have hmem := Std.TreeMap.mem_keys.2 ((hd₁ y).2 ⟨hy, hover⟩)
      have harray : (d₁.handleTableInfo i).sortedTableArray i = (d₁.packageTables i).keys := by
        rw [harrays, Function.update_self, if_neg (List.ne_nil_of_mem hmem)]
      rw [harrays', Function.update_self, harray, List.getLast?_drop] at hlast
      split_ifs at hlast
      have hsorted := keys_sorted (d₁.packageTables i)
      obtain ⟨l, hl⟩ := List.getLast?_eq_some_iff.1 hlast
      rw [hl] at hmem hsorted
      rcases List.mem_append.1 hmem with hmem | hmem
      · exact ((List.pairwise_append.1 hsorted).2.2 y hmem x (List.mem_singleton_self x)).le
      · exact (List.mem_singleton.1 hmem).le
    · exact (not_le.1 hover).le.trans hx.2

/-- The tables of a save: the rows are old or of an entry, and the caches decide what goes. -/
theorem newest_updateBundleUsageData (hd : d.ArraysSorted) {p : BundleActivePeriodStats}
    (hp : Keyed p.bundleStats)
    (hrow : row ∈ ((d.updateBundleUsageData i p).packageTables i).rows x)
    (hnewest : ∀ y ∈ (d.updateBundleUsageData i p).packageTables i, y ≤ x) :
    row ∈ flushedValues p ∨ row ∈ (d.packageTables i).rows x ∧ NewestTable d i x := by
  rw [updateBundleUsageData_eq hd] at hrow hnewest
  have hadd : ∀ y : ℤ, ((if p.beginTime ∈ d.sortedTableArray i then d
        else d.addPackageTable i p.beginTime).packageTables i)[y]? = (d.packageTables i)[y]? ∨
      ((if p.beginTime ∈ d.sortedTableArray i then d
        else d.addPackageTable i p.beginTime).packageTables i)[y]? =
          some ((d.packageTables i).rows y) ∨
      ((if p.beginTime ∈ d.sortedTableArray i then d
        else d.addPackageTable i p.beginTime).packageTables i)[y]? = none ∧
        maxFilesEveryIntervalType i ≤ ((d.sortedTableArray i).filter (y < ·)).length + 1 := by
    intro y
    split_ifs with hmem
    · exact .inl rfl
    · rw [(addPackageTable_spec d i p.beginTime).2]
      split_ifs with htake hnew
      · refine .inr (.inr ⟨rfl, ?_⟩)
        have hle := le_length_filter_of_mem_take (pairwise_withTable (hd i) hmem) htake.2
        have hperm : ((withTable (d.sortedTableArray i) p.beginTime).filter (y < ·)).length ≤
            ((d.sortedTableArray i).filter (y < ·)).length + 1 := by
          rw [withTable, ((List.perm_insertionSort _ _).filter _).length_eq, List.filter_append,
            List.length_append]
          exact Nat.add_le_add_left (List.length_filter_le _ _) _
        exact hle.trans hperm
      · exact .inr (.inl rfl)
      · exact .inl rfl
  set d' := if p.beginTime ∈ d.sortedTableArray i then d else d.addPackageTable i p.beginTime
  have hget := getElem?_flushPackageInfo d' i i p
  have hmem : ∀ y : ℤ, y ∈ (d'.flushPackageInfo i p).packageTables i ↔ y ∈ d'.packageTables i := by
    intro y
    rw [Std.TreeMap.mem_iff_isSome_getElem?, hget, Std.TreeMap.mem_iff_isSome_getElem?]
    split_ifs
    · rw [Option.isSome_map]
    · rfl
  have hbase : row ∈ flushedValues p ∨ row ∈ (d'.packageTables i).rows x := by
    unfold Tables.rows at hrow ⊢
    rw [hget] at hrow
    split_ifs at hrow with hx
    · cases hrows : (d'.packageTables i)[x]? with
      | none =>
        rw [hrows] at hrow
        cases hrow
      | some rows =>
        rw [hrows, Option.map_some, Option.getD_some, flushPackageRows_eq hp] at hrow
        exact (Upsert.mem_of_mem_upsert hrow).symm
    · exact .inr hrow
  refine hbase.imp_right fun hrow => ⟨?_, fun y hy hlt => ?_⟩
  · unfold Tables.rows at hrow ⊢
    rcases hadd x with heq | heq | heq
    · rwa [heq] at hrow
    · rwa [heq, Option.getD_some] at hrow
    · rw [heq.1] at hrow
      cases hrow
  · have hgone : y ∉ d'.packageTables i := fun h => (hnewest y ((hmem y).2 h)).not_gt hlt
    rw [Std.TreeMap.mem_iff_isSome_getElem?] at hy hgone
    rcases hadd y with heq | heq | heq
    · exact absurd (heq ▸ hy) hgone
    · exact absurd (by rw [heq]; rfl) hgone
    · exact heq.2

end DatabaseState

namespace ServiceState

open DatabaseState (NewestTable)

variable {s : ServiceState} {i : IntervalType}

/-- A uid of an entry, or of a row that a load after a save can read. -/
def StoredUid (s : ServiceState) (i : IntervalType) (n : String) (v : ℤ) : Prop :=
  (∃ (k : String) (e : BundleActivePackageStats),
    (s.currentStats i).bundleStats[k]? = some e ∧ e.bundleName = n ∧ e.uid = v) ∨
  ∃ x, NewestTable s.databaseState i x ∧ ∃ row ∈ (s.files.packageTables i).rows x,
    row.userId = s.userId ∧ row.bundleName = n ∧ row.uid = v

theorem databaseState_setDatabase (s : ServiceState) (d : DatabaseState) :
    (s.setDatabase d).databaseState = d :=
  rfl

theorem storedUid_of_readRow (tidy : s.Tidy) (keyed : ∀ i, Keyed (s.currentStats i).bundleStats)
    {t : ℤ} {n : String} {v : ℤ}
    (h : ReadRow ((s.restoreStats true).setDatabase
      ((s.restoreStats true).databaseState.removeOldData t)) i n v) : StoredUid s i n v := by
  obtain ⟨x, hlast, row, hrow, huser, hname, huid⟩ := h
  rw [databaseState_setDatabase] at hlast hrow
  obtain ⟨hrow, hnewest⟩ := DatabaseState.newest_removeOldData t hlast hrow
  have htables := (restoreStats_packages s i).2
  rw [Tables.rows_eq_of_getElem? _ _ (htables x)] at hrow
  have hnewest' : ∀ y ∈ (s.savedPackages i).packageTables i, y ≤ x := fun y hy => by
    refine hnewest y ?_
    rw [Std.TreeMap.mem_iff_isSome_getElem?] at hy ⊢
    rwa [htables]
  change row.userId = (s.restoreStats true).userId at huser
  rw [(restoreStats_user s true).1] at huser
  unfold savedPackages at hrow hnewest'
  split_ifs at hrow hnewest' with hempty
  · exact .inr ⟨x, fun y hy hlt => absurd hlt (hnewest' y hy).not_gt, row, hrow, huser, hname, huid⟩
  · rcases DatabaseState.newest_updateBundleUsageData tidy.arrays (keyed i) hrow hnewest' with
      hnew | ⟨hold, hx⟩
    · obtain ⟨k, e, hk, -, rfl⟩ := DatabaseState.mem_flushedValues.1 hnew
      exact .inl ⟨k, e, hk, hname, huid⟩
    · exact .inr ⟨x, hx, row, hold, huser, hname, huid⟩

end ServiceState

end DeviceUsageStats
