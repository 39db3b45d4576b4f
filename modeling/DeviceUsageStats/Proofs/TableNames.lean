import DeviceUsageStats.Sanity.TableNames
import DeviceUsageStats.Proofs.RenewFailures

/-! The database object works on names, the model of it on start times. Whatever the object does, its names
are those of the start times, in its caches and in the databases under it. -/

namespace DeviceUsageStats

/-! ### The tables of one database -/

/-- The names are those of tables with the start times. -/
structure NamesOf {Row : Type} (table : TimedTable) (names : List String) (tables : Tables Row) :
    Prop where
  nodup : names.Nodup
  mem : ∀ name, name ∈ names ↔ ∃ t ∈ tables, table.tableName t = name
  bounded : ∀ t ∈ tables, 0 ≤ t ∧ FitsInt64 t

namespace NamesOf

variable {Row : Type} {table : TimedTable} {names : List String} {tables tables' : Tables Row} {t t' : ℤ}

theorem mem_tableName (h : NamesOf table names tables) (t : ℤ) :
    table.tableName t ∈ names ↔ t ∈ tables := by
  rw [h.mem]
  constructor
  · rintro ⟨s, hs, hname⟩
    rwa [← (table.tableName_inj s t).1 hname]
  · exact fun ht => ⟨t, ht, rfl⟩

theorem congr (h : NamesOf table names tables) (hmem : ∀ t, t ∈ tables' ↔ t ∈ tables) :
    NamesOf table names tables' := by
  refine ⟨h.nodup, fun name => ?_, fun t ht => h.bounded t ((hmem t).1 ht)⟩
  simp only [h.mem, hmem]

theorem perm (h : NamesOf table names tables) : names.Perm (tables.keys.map table.tableName) := by
  have hkeys : (tables.keys.map table.tableName).Nodup :=
    List.Nodup.map (fun _ _ => (table.tableName_inj _ _).1)
      ((DatabaseState.keys_sorted tables).imp ne_of_lt)
  refine (List.perm_ext_iff_of_nodup h.nodup hkeys).2 fun name => ?_
  simp [h.mem, Std.TreeMap.mem_keys]

theorem mem_create {x : ℤ} : x ∈ tables.create t ↔ x ∈ tables ∨ x = t ∧ 0 ≤ t := by
  rw [Std.TreeMap.mem_iff_isSome_getElem?, Tables.getElem?_create, Std.TreeMap.mem_iff_isSome_getElem?]
  split_ifs with hx
  · simp [hx]
  · simp [hx]

theorem create (h : NamesOf table names tables) (ht : FitsInt64 t) :
    NamesOf table (SqliteMaster.create names (table.tableName t)) (tables.create t) := by
  have hmem : ∀ name, name ∈ SqliteMaster.create names (table.tableName t) ↔
      name ∈ names ∨ name = table.tableName t ∧ 0 ≤ t := by
    intro name
    unfold SqliteMaster.create
    simp only [table.acceptedName_tableName]
    split_ifs with hnew
    · simp [hnew.1]
    · refine ⟨.inl, ?_⟩
      rintro (hname | ⟨rfl, hnonneg⟩)
      · exact hname
      · by_contra hnot
        exact hnew ⟨hnonneg, hnot⟩
  refine ⟨?_, fun name => ?_, fun x hx => ?_⟩
  · unfold SqliteMaster.create
    split_ifs with hnew
    · exact h.nodup.append (List.nodup_singleton _) (by simpa using hnew.2)
    · exact h.nodup
  · rw [hmem, h.mem]
    constructor
    · rintro (⟨x, hx, rfl⟩ | ⟨rfl, hnonneg⟩)
      · exact ⟨x, mem_create.2 (.inl hx), rfl⟩
      · exact ⟨t, mem_create.2 (.inr ⟨rfl, hnonneg⟩), rfl⟩
    · rintro ⟨x, hx, rfl⟩
      rcases mem_create.1 hx with hx | ⟨rfl, hnonneg⟩
      · exact .inl ⟨x, hx, rfl⟩
      · exact .inr ⟨rfl, hnonneg⟩
  · rcases mem_create.1 hx with hx | ⟨rfl, hnonneg⟩
    · exact h.bounded x hx
    · exact ⟨hnonneg, ht⟩

theorem drop (h : NamesOf table names tables) (t : ℤ) :
    NamesOf table (SqliteMaster.drop names (table.tableName t)).1 (tables.drop t).1 := by
  refine ⟨h.nodup.erase _, fun name => ?_, fun x hx => h.bounded x (tables.mem_drop t x |>.1 hx).1⟩
  simp only [SqliteMaster.drop, h.nodup.mem_erase_iff, h.mem, Tables.mem_drop]
  constructor
  · rintro ⟨hne, x, hx, rfl⟩
    exact ⟨x, ⟨hx, fun heq => hne (heq ▸ rfl)⟩, rfl⟩
  · rintro ⟨x, ⟨hx, hne⟩, rfl⟩
    exact ⟨fun heq => hne ((table.tableName_inj x t).1 heq), x, hx, rfl⟩

theorem drop_success (h : NamesOf table names tables) (t : ℤ) :
    (SqliteMaster.drop names (table.tableName t)).2 = (tables.drop t).2 := by
  rw [Bool.eq_iff_iff]
  simp only [SqliteMaster.drop, Tables.drop, List.contains_iff_mem, h.mem_tableName,
    Std.TreeMap.contains_iff_mem]

theorem rename_iff (h : NamesOf table names tables) : table.tableName t ∈ names ∧
      table.tableName t' ∉ names ∧ acceptedName (table.tableName t') = true ↔
    t ∈ tables ∧ t' ∉ tables ∧ 0 ≤ t' := by
  rw [h.mem_tableName, h.mem_tableName, table.acceptedName_tableName]

theorem tables_rename : tables.rename t t' =
    if t ∈ tables ∧ t' ∉ tables ∧ 0 ≤ t' then
      ((tables.erase t).insert t' (tables.rows t), true) else (tables, false) := by
  simp only [Std.TreeMap.mem_iff_isSome_getElem?]
  unfold Tables.rename Tables.rows
  cases tables[t]? with
  | none => simp
  | some rows =>
    cases tables[t']? with
    | none => simp
    | some rows' => simp

theorem rename_success (h : NamesOf table names tables) (t t' : ℤ) :
    (SqliteMaster.rename names (table.tableName t) (table.tableName t')).2 = (tables.rename t t').2 := by
  rw [tables_rename, SqliteMaster.rename]
  simp only [h.rename_iff]
  split_ifs <;> rfl

theorem rename (h : NamesOf table names tables) (ht : FitsInt64 t') :
    NamesOf table (SqliteMaster.rename names (table.tableName t) (table.tableName t')).1
      (tables.rename t t').1 := by
  rw [tables_rename, SqliteMaster.rename]
  simp only [h.rename_iff]
  split_ifs with hrenamed
  · obtain ⟨hold, hnew, hnonneg⟩ := hrenamed
    have hname : table.tableName t' ∉ names := fun hmem => hnew ((h.mem_tableName t').1 hmem)
    have hmem : ∀ x, x ∈ (tables.erase t).insert t' (tables.rows t) ↔ x = t' ∨ x ∈ tables ∧ x ≠ t := by
      intro x
      rw [Std.TreeMap.mem_insert, Std.TreeMap.mem_erase]
      simp only [Std.LawfulEqCmp.compare_eq_iff_eq, ne_eq]
      tauto
    refine ⟨?_, fun name => ?_, fun x hx => ?_⟩
    · refine h.nodup.map_on fun a ha b hb hab => ?_
      split_ifs at hab with ha' hb' hb'
      · rw [ha', hb']
      · exact absurd (hab ▸ hb) hname
      · exact absurd (hab ▸ ha) hname
      · exact hab
    · simp only [List.mem_map, hmem]
      constructor
      · rintro ⟨a, ha, rfl⟩
        split_ifs with hat
        · exact ⟨t', .inl rfl, rfl⟩
        · obtain ⟨x, hx, rfl⟩ := (h.mem a).1 ha
          exact ⟨x, .inr ⟨hx, fun heq => hat (heq ▸ rfl)⟩, rfl⟩
      · rintro ⟨x, rfl | ⟨hx, hne⟩, rfl⟩
        · exact ⟨table.tableName t, (h.mem_tableName t).2 hold, if_pos rfl⟩
        · refine ⟨table.tableName x, (h.mem_tableName x).2 hx, if_neg fun heq => ?_⟩
          exact hne ((table.tableName_inj x t).1 heq)
    · rcases (hmem x).1 hx with rfl | ⟨hx, -⟩
      · exact ⟨hnonneg, ht⟩
      · exact h.bounded x hx
  · exact h

theorem parsed_perm (h : NamesOf table names tables) : (names.map parseTableName).Perm tables.keys := by
  have hparse : (tables.keys.map table.tableName).map parseTableName = tables.keys := by
    rw [List.map_map]
    refine (List.map_congr_left fun t ht => ?_).trans (List.map_id _)
    obtain ⟨hnonneg, hfits⟩ := h.bounded t (Std.TreeMap.mem_keys.1 ht)
    exact table.parseTableName_of_nonneg hfits hnonneg
  rw [← hparse]
  exact h.perm.map parseTableName

theorem parsed (h : NamesOf table names tables) :
    (names.map parseTableName).insertionSort (· ≤ ·) = tables.keys := by
  refine List.Perm.eq_of_pairwise' (r := (· ≤ ·)) (List.pairwise_insertionSort _ _)
    ((DatabaseState.keys_sorted tables).imp le_of_lt) ?_
  exact (List.perm_insertionSort _ _).trans h.parsed_perm

theorem sorted_names (h : NamesOf table names tables) : names.insertionSort (· ≤ ·) =
    (tables.keys.insertionSort fun s t => toString s ≤ toString t).map table.tableName := by
  have hsorted : ((tables.keys.insertionSort fun s t => toString s ≤ toString t).map
      table.tableName).Pairwise (· ≤ ·) := by
    rw [List.pairwise_map]
    exact (List.pairwise_insertionSort _ _).imp fun hle => (table.tableName_le_iff _ _).2 hle
  refine List.Perm.eq_of_pairwise' (r := (· ≤ ·)) (List.pairwise_insertionSort _ _) hsorted ?_
  exact ((List.perm_insertionSort _ _).trans h.perm).trans
    ((List.perm_insertionSort _ _).map table.tableName).symm

end NamesOf

/-! ### The tables of records -/

def recordKind (tableName : String) : Option TimedTable :=
  if nameContains TimedTable.moduleRecordLog.stem tableName then some .moduleRecordLog
  else if nameContains TimedTable.formRecordLog.stem tableName then some .formRecordLog
  else none

theorem recordKind_module (t : ℤ) :
    recordKind (TimedTable.moduleRecordLog.tableName t) = some .moduleRecordLog :=
  if_pos (TimedTable.nameContains_stem _ t)

theorem recordKind_form (t : ℤ) :
    recordKind (TimedTable.formRecordLog.tableName t) = some .formRecordLog := by
  rw [recordKind, TimedTable.not_nameContains_form, if_neg Bool.false_ne_true,
    if_pos (TimedTable.nameContains_stem _ t)]

/-- The names of one kind of records are those of tables with the start times, in the same order. -/
structure RecordsOf {Row : Type} (table : TimedTable) (names : List String)
    (tables : List (ℤ × List Row)) : Prop where
  kind : ∀ t, recordKind (table.tableName t) = some table
  names : names.filter (recordKind · = some table) = tables.map fun entry => table.tableName entry.1
  bounded : ∀ entry ∈ tables, 0 ≤ entry.1 ∧ FitsInt64 entry.1

namespace RecordsOf

variable {Row : Type} {table other : TimedTable} {names : List String} {tables : List (ℤ × List Row)}
  {t t' : ℤ}

theorem mem_tableName (h : RecordsOf table names tables) (t : ℤ) :
    table.tableName t ∈ names ↔ (tables.lookup t).isSome := by
  have hfilter : table.tableName t ∈ names ↔ table.tableName t ∈ names.filter (recordKind · = some table) := by
    simp [List.mem_filter, h.kind t]
  rw [hfilter, h.names, List.lookup_isSome_iff]
  simp only [List.mem_map, table.tableName_inj, beq_iff_eq]
  exact ⟨fun ⟨entry, hentry, heq⟩ => ⟨entry, hentry, heq.symm⟩,
    fun ⟨entry, hentry, heq⟩ => ⟨entry, hentry, heq.symm⟩⟩

theorem create (h : RecordsOf table names tables) (ht : FitsInt64 t) :
    RecordsOf table (SqliteMaster.create names (table.tableName t)) (CreatedTables.create tables t) := by
  have hnew : acceptedName (table.tableName t) = true ∧ table.tableName t ∉ names ↔
      0 ≤ t ∧ tables.lookup t = none := by
    rw [table.acceptedName_tableName, h.mem_tableName, Option.not_isSome_iff_eq_none]
  unfold SqliteMaster.create CreatedTables.create
  simp only [hnew]
  split_ifs with hcreated
  · refine ⟨h.kind, ?_, fun entry hentry => ?_⟩
    · rw [List.filter_append, h.names, List.map_append]
      simp [h.kind t]
    · rcases List.mem_append.1 hentry with hentry | hentry
      · exact h.bounded entry hentry
      · rw [List.mem_singleton.1 hentry]
        exact ⟨hcreated.1, ht⟩
  · exact h

theorem create_other (h : RecordsOf table names tables) {name : String}
    (hother : recordKind name ≠ some table) : RecordsOf table (SqliteMaster.create names name) tables := by
  refine ⟨h.kind, ?_, h.bounded⟩
  unfold SqliteMaster.create
  split_ifs
  · rw [List.filter_append, h.names]
    simp [hother]
  · exact h.names

theorem filter_map_rename (names : List String) {old new : String} (kind : Option TimedTable)
    (hkind : recordKind old = kind ↔ recordKind new = kind) :
    (names.map fun name => if name = old then new else name).filter (recordKind · = kind) =
      (names.filter (recordKind · = kind)).map fun name => if name = old then new else name := by
  rw [List.filter_map]
  congr 1
  refine List.filter_congr fun name _ => ?_
  rw [Function.comp]
  split_ifs with hname
  · rw [hname]
    simp [hkind]
  · rfl

theorem rename_iff (h : RecordsOf table names tables) : table.tableName t ∈ names ∧
      table.tableName t' ∉ names ∧ acceptedName (table.tableName t') = true ↔
    (tables.lookup t).isSome ∧ tables.lookup t' = none ∧ 0 ≤ t' := by
  rw [h.mem_tableName, h.mem_tableName, table.acceptedName_tableName, Option.not_isSome_iff_eq_none]

theorem rename_success (h : RecordsOf table names tables) (t t' : ℤ) :
    (SqliteMaster.rename names (table.tableName t) (table.tableName t')).2 =
      (CreatedTables.rename tables t t').2 := by
  unfold SqliteMaster.rename CreatedTables.rename
  simp only [h.rename_iff]
  split_ifs <;> rfl

theorem rename (h : RecordsOf table names tables) (ht : FitsInt64 t') :
    RecordsOf table (SqliteMaster.rename names (table.tableName t) (table.tableName t')).1
      (CreatedTables.rename tables t t').1 := by
  unfold SqliteMaster.rename CreatedTables.rename
  simp only [h.rename_iff]
  split_ifs with hrenamed
  · refine ⟨h.kind, ?_, fun entry hentry => ?_⟩
    · rw [filter_map_rename names _ (by simp [h.kind]), h.names, List.map_map, List.map_map]
      refine List.map_congr_left fun entry _ => ?_
      simp only [Function.comp, table.tableName_inj]
      split_ifs <;> rfl
    · obtain ⟨entry, hmem, rfl⟩ := List.mem_map.1 hentry
      split_ifs
      · exact ⟨hrenamed.2.2, ht⟩
      · exact h.bounded entry hmem
  · exact h

theorem rename_other (h : RecordsOf table names tables) (old new : String)
    (hold : recordKind old ≠ some table) (hnew : recordKind new ≠ some table) :
    RecordsOf table (SqliteMaster.rename names old new).1 tables := by
  refine ⟨h.kind, ?_, h.bounded⟩
  unfold SqliteMaster.rename
  split_ifs
  · rw [filter_map_rename names _ (iff_of_false hold hnew), h.names, List.map_map]
    refine List.map_congr_left fun entry _ => if_neg fun heq => hold ?_
    rw [← heq, h.kind]
  · exact h.names

theorem modifyRows (h : RecordsOf table names tables) (t : ℤ) (f : List Row → List Row) :
    RecordsOf table names (CreatedTables.modifyRows tables t f) := by
  refine ⟨h.kind, ?_, fun entry hentry => ?_⟩
  · rw [h.names, CreatedTables.modifyRows, List.map_map]
    refine List.map_congr_left fun entry _ => ?_
    simp only [Function.comp]
    split_ifs <;> rfl
  · obtain ⟨entry, hmem, rfl⟩ := List.mem_map.1 hentry
    split_ifs <;> exact h.bounded entry hmem

end RecordsOf

/-! ### The object -/

def cachedName (table : TimedTable) : Option ℤ → String
  | none => unknownTableName
  | some t => table.tableName t

theorem cachedName_eq_unknown {table : TimedTable} {cached : Option ℤ} :
    cachedName table cached = unknownTableName ↔ cached = none := by
  cases cached with
  | none => simp [cachedName]
  | some t => simpa [cachedName] using table.tableName_ne_unknown t

/-- The named object over named tables stands for an object and tables known by start times. -/
structure Represents (n : NamedState) (d : DatabaseState) : Prop where
  packages : ∀ i, NamesOf .packageLog (n.packageNames i) (d.packageTables i)
  events : NamesOf .eventLog n.eventNames d.eventTables
  modules : RecordsOf .moduleRecordLog n.groupNames d.moduleTables
  forms : RecordsOf .formRecordLog n.groupNames d.formTables
  sorted : n.sortedTableArray = d.sortedTableArray
  eventName : n.eventTableName = cachedName .eventLog d.eventTableName
  moduleName : n.moduleRecordsTableName = cachedName .moduleRecordLog d.moduleRecordsTableName
  formName : n.formRecordsTableName = cachedName .formRecordLog d.formRecordsTableName
  eventFits : ∀ t ∈ d.eventTableName, FitsInt64 t
  moduleFits : ∀ t ∈ d.moduleRecordsTableName, FitsInt64 t
  beginTime : n.eventBeginTime = d.eventBeginTime
  debug : n.debugDatabase = d.debugDatabase

namespace Represents

variable {n : NamedState} {d : DatabaseState} {i : IntervalType} {t : ℤ}

/-- Loops over the same list go hand in hand. -/
theorem foldl {α : Type} {f : NamedState → α → NamedState} {g : DatabaseState → α → DatabaseState}
    {l : List α} (step : ∀ x ∈ l, ∀ n d, Represents n d → Represents (f n x) (g d x))
    (h : Represents n d) : Represents (l.foldl f n) (l.foldl g d) := by
  induction l generalizing n d with
  | nil => exact h
  | cons x l ih =>
    exact ih (fun y hy => step y (List.mem_cons_of_mem _ hy)) (step x List.mem_cons_self n d h)

theorem setPackages (h : Represents n d) (i : IntervalType) {names : List String}
    {tables : Tables PackageLogRow} (hi : NamesOf .packageLog names tables) :
    Represents (n.setPackageNames i names)
      { d with packageTables := Function.update d.packageTables i tables } := by
  refine { h with packages := fun j => ?_ }
  by_cases hj : j = i
  · subst hj
    simpa [NamedState.setPackageNames] using hi
  · simpa [NamedState.setPackageNames, hj] using h.packages j

theorem setSorted (h : Represents n d) (sortedTableArray : IntervalType → List ℤ) (t : ℤ) :
    Represents { n with sortedTableArray := sortedTableArray, eventBeginTime := t }
      { d with sortedTableArray := sortedTableArray, eventBeginTime := t } :=
  { h with sorted := rfl, beginTime := rfl }

/-! ### Package tables -/

theorem deletePackageTable (h : Represents n d) (i : IntervalType) (t : ℤ) :
    Represents (n.deletePackageTable i t) (d.deletePackageTable i t) :=
  h.setPackages i ((h.packages i).drop t)

theorem createPackageLogTable (h : Represents n d) (i : IntervalType) (ht : FitsInt64 t) :
    Represents (n.createPackageLogTable i t) (d.createPackageLogTable i t) :=
  h.setPackages i ((h.packages i).create ht)

theorem handleTableInfo (h : Represents n d) (i : IntervalType) :
    Represents (n.handleTableInfo i) (d.handleTableInfo i) := by
  have hparsed := (h.packages i).parsed
  have hempty : n.packageNames i = [] ↔ (d.packageTables i).keys = [] := by
    rw [← List.length_eq_zero_iff, ← List.length_eq_zero_iff, (h.packages i).perm.length_eq,
      List.length_map]
  unfold NamedState.handleTableInfo DatabaseState.handleTableInfo
  simp only [hparsed]
  cases hlast : (d.packageTables i).keys.getLast? with
  | none =>
    rw [if_pos (hempty.2 (List.getLast?_eq_none_iff.1 hlast))]
    exact h
  | some lastTable =>
    rw [if_neg fun hnil => by simp [hempty.1 hnil] at hlast, h.sorted, h.beginTime]
    exact h.setSorted _ _

theorem dropSorted (h : Represents n d) (i : IntervalType) (l : List ℤ) (rest : List ℤ) :
    Represents
      { l.foldl (fun n t => n.deletePackageTable i t) n with
        sortedTableArray := Function.update
          (l.foldl (fun n t => n.deletePackageTable i t) n).sortedTableArray i rest }
      { l.foldl (fun d t => d.deletePackageTable i t) d with
        sortedTableArray := Function.update
          (l.foldl (fun d t => d.deletePackageTable i t) d).sortedTableArray i rest } := by
  have hdeleted := h.foldl (f := fun n t => n.deletePackageTable i t)
    (g := fun d t => d.deletePackageTable i t) (l := l) fun t _ n d h => h.deletePackageTable i t
  exact { hdeleted with
    sorted := congrArg (fun sorted => Function.update sorted i rest) hdeleted.sorted }

theorem sorted_foldl_delete (n : NamedState) (i : IntervalType) (l : List ℤ) :
    (l.foldl (fun n t => n.deletePackageTable i t) n).sortedTableArray = n.sortedTableArray := by
  induction l generalizing n with
  | nil => rfl
  | cons t l ih => exact ih _

theorem deleteExcessiveTableData (h : Represents n d) (i : IntervalType) :
    Represents (n.deleteExcessiveTableData i) (d.deleteExcessiveTableData i) := by
  unfold NamedState.deleteExcessiveTableData DatabaseState.deleteExcessiveTableData
  simp only
  have hsorted := congrArg BundleActiveUsageDatabase.sortedTableArray
    (DatabaseState.foldl_deletePackageTable d i
      ((d.sortedTableArray i).take ((d.sortedTableArray i).length - maxFilesEveryIntervalType i))).1
  have hdropped := h.dropSorted i
    ((d.sortedTableArray i).take ((d.sortedTableArray i).length - maxFilesEveryIntervalType i))
    ((d.sortedTableArray i).drop ((d.sortedTableArray i).length - maxFilesEveryIntervalType i))
  rw [h.sorted, sorted_foldl_delete, h.sorted, hsorted]
  rw [sorted_foldl_delete, h.sorted, hsorted] at hdropped
  exact hdropped

theorem handleAndDelete (h : Represents n d) : Represents
    (IntervalType.all.foldl (fun n i => (n.handleTableInfo i).deleteExcessiveTableData i) n)
    (IntervalType.all.foldl (fun d i => (d.handleTableInfo i).deleteExcessiveTableData i) d) :=
  h.foldl fun i _ _ _ h => (h.handleTableInfo i).deleteExcessiveTableData i

theorem deleteFutureTables (h : Represents n d) (now : ℤ) (i : IntervalType) :
    Represents (n.deleteFutureTables now i) (DatabaseState.deleteFutureTables now d i) := by
  unfold NamedState.deleteFutureTables DatabaseState.deleteFutureTables
  simp only [h.sorted]
  set startIndex := (nearIndexOnOrAfterCurrentTime now (d.sortedTableArray i)).toNat
  split_ifs
  · exact h
  · refine h.foldl fun _ _ n d h => ?_
    rw [h.sorted]
    exact { h.deletePackageTable i _ with
      sorted := congrArg (fun sorted : IntervalType → List ℤ =>
        Function.update sorted i ((sorted i).eraseIdx startIndex)) h.sorted }

theorem removeOverdueTables (h : Represents n d) (now : ℤ) (i : IntervalType) :
    Represents (NamedState.removeOverdueTables now n i) (DatabaseState.removeOverdueTables now d i) := by
  unfold NamedState.removeOverdueTables DatabaseState.removeOverdueTables
  simp only [h.debug]
  set threshold := (BundleActiveCalendar.increase { time := now, debug := d.debugDatabase } i
    (-1 * maxFilesEveryIntervalType i)).time
  have hperm : (n.getOverdueTableCreateTime i threshold).Perm
      ((d.packageTables i).keys.filter (· < threshold)) := by
    unfold NamedState.getOverdueTableCreateTime
    have hfilter := (h.packages i).parsed_perm.filter (· < threshold)
    rwa [List.filter_map] at hfilter
  have hcomm : ∀ (n : NamedState) (s t : ℤ),
      (n.deletePackageTable i s).deletePackageTable i t =
        (n.deletePackageTable i t).deletePackageTable i s := by
    intro n s t
    simp [NamedState.deletePackageTable, NamedState.setPackageNames, SqliteMaster.drop,
      List.erase_comm]
  rw [hperm.foldl_eq' fun s _ t _ n => hcomm n s t]
  exact h.foldl fun t _ n d h => h.deletePackageTable i t

theorem removeOldData (h : Represents n d) (now : ℤ) :
    Represents (n.removeOldData now) (d.removeOldData now) := by
  have hremoved := h.foldl (f := NamedState.removeOverdueTables now)
    (g := DatabaseState.removeOverdueTables now)
    (l := [IntervalType.yearly, .monthly, .weekly, .daily])
    fun i _ _ _ h => h.removeOverdueTables now i
  exact hremoved.handleAndDelete

theorem renewPackageTable (h : Represents n d) (timeDiff : ℤ) (i : IntervalType)
    (ht : FitsInt64 (t + timeDiff)) :
    Represents (NamedState.renewPackageTable timeDiff i n t)
      (DatabaseState.renewPackageTable timeDiff i d t) := by
  unfold NamedState.renewPackageTable DatabaseState.renewPackageTable
  simp only
  split_ifs
  · exact h.deletePackageTable i t
  · exact h.setPackages i ((h.packages i).rename ht)

theorem renewPackageTables (h : Represents n d) (timeDiff : ℤ) (i : IntervalType)
    (hfits : ∀ t ∈ d.sortedTableArray i, FitsInt64 (t + timeDiff)) :
    Represents (NamedState.renewPackageTables timeDiff n i)
      (DatabaseState.renewPackageTables timeDiff d i) := by
  unfold NamedState.renewPackageTables DatabaseState.renewPackageTables
  rw [h.sorted]
  split_ifs
  · exact h
  · have hrenamed := h.foldl (f := NamedState.renewPackageTable timeDiff i)
      (g := DatabaseState.renewPackageTable timeDiff i) (l := d.sortedTableArray i)
      fun t ht n d h => h.renewPackageTable timeDiff i (hfits t ht)
    refine Represents.deleteExcessiveTableData (Represents.handleTableInfo ?_ i) i
    exact { hrenamed with
      sorted := congrArg (fun sorted : IntervalType → List ℤ => Function.update sorted i [])
        hrenamed.sorted }

/-! ### The event table -/

theorem setEvents (h : Represents n d) {names : List String} {tables : Tables EventLogRow}
    (hevents : NamesOf .eventLog names tables) (cached : Option ℤ) (hfits : ∀ t ∈ cached, FitsInt64 t) :
    Represents { n with eventNames := names, eventTableName := cachedName .eventLog cached }
      { d with eventTables := tables, eventTableName := cached } :=
  { h with events := hevents, eventName := rfl, eventFits := hfits }

theorem handleEventTableInfo (h : Represents n d) :
    Represents n.handleEventTableInfo d.handleEventTableInfo := by
  have hperm := h.events.perm
  unfold NamedState.handleEventTableInfo DatabaseState.handleEventTableInfo
  cases hkeys : d.eventTables.keys with
  | nil =>
    rw [hkeys, List.map_nil, List.perm_nil] at hperm
    rw [hperm]
    exact h
  | cons t keys =>
    cases keys with
    | nil =>
      rw [hkeys, List.map_cons, List.map_nil, List.perm_singleton] at hperm
      rw [hperm]
      have ht : t ∈ d.eventTables := by
        rw [← Std.TreeMap.mem_keys, hkeys]
        exact List.mem_singleton_self t
      refine { h with eventName := rfl, eventFits := fun s hs => ?_ }
      rw [← Option.some_inj.1 hs]
      exact (h.events.bounded t ht).2
    | cons t' keys =>
      have hlength := hperm.length_eq
      rw [hkeys] at hlength
      cases hnames : n.eventNames with
      | nil => simp [hnames] at hlength
      | cons a names =>
        cases names with
        | nil => simp [hnames] at hlength
        | cons b names => exact h

theorem deleteEventTable (h : Represents n d) (t : ℤ) :
    Represents (n.deleteEventTable t).1 { d with eventTables := (d.eventTables.drop t).1 } ∧
      (n.deleteEventTable t).2 = (d.eventTables.drop t).2 :=
  ⟨{ h with events := h.events.drop t }, h.events.drop_success t⟩

theorem createEventLogTable (h : Represents n d) (ht : FitsInt64 t) :
    Represents (n.createEventLogTable t) (d.createEventLogTable t) := by
  refine h.setEvents (h.events.create ht) (some t) fun s hs => ?_
  rwa [← Option.some_inj.1 hs]

theorem initEventTableStep (h : Represents n d) (now : ℤ) (ht : 0 ≤ t ∧ FitsInt64 t) :
    Represents (NamedState.initEventTableStep now n (TimedTable.eventLog.tableName t))
      (DatabaseState.initEventTableStep now d t) := by
  unfold NamedState.initEventTableStep DatabaseState.initEventTableStep
  simp only [TimedTable.parseTableName_of_nonneg _ ht.2 ht.1, h.eventName, cachedName_eq_unknown]
  split_ifs
  · refine { h with eventName := rfl, eventFits := fun s hs => ?_ }
    rw [← Option.some_inj.1 hs]
    exact ht.2
  · exact (h.deleteEventTable t).1

theorem initEventTable (h : Represents n d) {now : ℤ} (hnow : FitsInt64 now) :
    Represents (n.initEventTable now) (d.initEventTable now) := by
  unfold NamedState.initEventTable DatabaseState.initEventTable
  by_cases hname : d.eventTableName = none
  · have htext : n.eventTableName = unknownTableName := by rw [h.eventName, hname, cachedName]
    have hbounded : ∀ t ∈ (d.eventTables.keys.insertionSort fun s t =>
        toString s ≤ toString t).reverse, 0 ≤ t ∧ FitsInt64 t := fun t ht => by
      rw [List.mem_reverse, List.mem_insertionSort, Std.TreeMap.mem_keys] at ht
      exact h.events.bounded t ht
    have hfolded := h.foldl
      (f := fun n t => NamedState.initEventTableStep now n (TimedTable.eventLog.tableName t))
      (g := DatabaseState.initEventTableStep now) fun t ht n d h => h.initEventTableStep now (hbounded t ht)
    rw [if_neg (not_not.2 htext), if_neg (not_not.2 hname), h.events.sorted_names]
    simp only
    rw [← List.map_reverse, List.foldl_map]
    simp only [hfolded.eventName, cachedName_eq_unknown]
    split_ifs
    · exact hfolded.createEventLogTable hnow
    · exact hfolded
  · have htext : n.eventTableName ≠ unknownTableName := by
      rwa [h.eventName, ne_eq, cachedName_eq_unknown]
    rw [if_pos htext, if_pos hname]
    exact h

theorem renewEventTable (h : Represents n d) (timeDiff : ℤ)
    (hfits : ∀ t ∈ d.eventTableName, FitsInt64 (parseStartTime t + timeDiff)) :
    Represents (n.renewEventTable timeDiff) (d.renewEventTable timeDiff) := by
  unfold NamedState.renewEventTable DatabaseState.renewEventTable
  cases hname : d.eventTableName with
  | none =>
    have htext : n.eventTableName = unknownTableName := by rw [h.eventName, hname, cachedName]
    rw [if_pos htext]
    exact h
  | some eventTable =>
    have htext : n.eventTableName = TimedTable.eventLog.tableName eventTable := by
      rw [h.eventName, hname, cachedName]
    have hunknown : n.eventTableName ≠ unknownTableName := by
      rw [htext]
      exact TimedTable.tableName_ne_unknown _ _
    have hnew := hfits eventTable hname
    rw [if_neg hunknown]
    simp only [htext, TimedTable.parseTableName_tableName _ (h.eventFits eventTable hname)]
    by_cases hneg : parseStartTime eventTable + timeDiff < 0
    · obtain ⟨hdeleted, hsuccess⟩ := h.deleteEventTable (parseStartTime eventTable)
      rw [if_pos hneg, if_pos hneg, hsuccess]
      cases (d.eventTables.drop (parseStartTime eventTable)).2 with
      | true => exact hdeleted.setEvents hdeleted.events none fun t ht => by cases ht
      | false =>
        exact { hdeleted with
          eventName := htext
          eventFits := fun t ht => h.eventFits t (hname ▸ ht) }
    · have hrenamed := h.events.rename (t := parseStartTime eventTable) hnew
      have hsuccess := h.events.rename_success (parseStartTime eventTable)
        (parseStartTime eventTable + timeDiff)
      rw [if_neg hneg, if_neg hneg, hsuccess]
      cases (d.eventTables.rename (parseStartTime eventTable)
          (parseStartTime eventTable + timeDiff)).2 with
      | true =>
        refine h.setEvents hrenamed (some (parseStartTime eventTable + timeDiff)) fun t ht => ?_
        rwa [← Option.some_inj.1 ht]
      | false =>
        simp only [Bool.false_eq_true, if_false]
        exact h.setEvents hrenamed (some eventTable) fun t ht => h.eventFits t (hname ▸ ht)

/-! ### The tables of records -/

theorem createModuleRecordTable (h : Represents n d) (ht : FitsInt64 t) :
    Represents (n.createModuleRecordTable t)
      { d with
        moduleRecordsTableName := some t
        moduleTables := CreatedTables.create d.moduleTables t } :=
  { h with
    modules := h.modules.create ht
    forms := h.forms.create_other (by simp [recordKind_module])
    moduleName := rfl
    moduleFits := fun s hs => by rwa [← Option.some_inj.1 hs] }

theorem createFormRecordTable (h : Represents n d) (ht : FitsInt64 t) :
    Represents (n.createFormRecordTable t)
      { d with
        formRecordsTableName := some t
        formTables := CreatedTables.create d.formTables t } :=
  { h with
    modules := h.modules.create_other (by simp [recordKind_form])
    forms := h.forms.create ht
    formName := rfl }

theorem createMissingModuleTable (h : Represents n d) (ht : FitsInt64 t) : Represents
    (if n.moduleRecordsTableName = unknownTableName then n.createModuleRecordTable t else n)
    (if d.moduleRecordsTableName = none then
      { d with
        moduleRecordsTableName := some t
        moduleTables := CreatedTables.create d.moduleTables t }
    else d) := by
  simp only [h.moduleName, cachedName_eq_unknown]
  split_ifs
  · exact h.createModuleRecordTable ht
  · exact h

theorem createMissingFormTable (h : Represents n d) (ht : FitsInt64 t) : Represents
    (if n.formRecordsTableName = unknownTableName then n.createFormRecordTable t else n)
    (if d.formRecordsTableName = none then
      { d with
        formRecordsTableName := some t
        formTables := CreatedTables.create d.formTables t }
    else d) := by
  simp only [h.formName, cachedName_eq_unknown]
  split_ifs
  · exact h.createFormRecordTable ht
  · exact h

theorem createRecordTable (h : Represents n d) (ht : FitsInt64 t) :
    Represents (n.createRecordTable t) (d.createRecordTable t) :=
  (h.createMissingModuleTable ht).createMissingFormTable ht

/-- The last name of a kind is the one that is cached. -/
theorem foldl_initUsageGroupStep (n : NamedState) (names : List String) :
    names.foldl NamedState.initUsageGroupStep n =
      { n with
        moduleRecordsTableName :=
          ((names.filter (recordKind · = some .moduleRecordLog)).getLast?).getD n.moduleRecordsTableName
        formRecordsTableName :=
          ((names.filter (recordKind · = some .formRecordLog)).getLast?).getD n.formRecordsTableName } := by
  induction names using List.reverseRecOn generalizing n with
  | nil => rfl
  | append_singleton names name ih =>
    rw [List.foldl_append, ih, List.foldl_cons, List.foldl_nil, List.filter_append, List.filter_append]
    unfold NamedState.initUsageGroupStep
    by_cases hmodule : nameContains TimedTable.moduleRecordLog.stem name = true
    · have hkind : recordKind name = some .moduleRecordLog := if_pos hmodule
      simp [hmodule, hkind]
    · by_cases hform : nameContains TimedTable.formRecordLog.stem name = true
      · have hkind : recordKind name = some .formRecordLog := by
          rw [recordKind, if_neg hmodule, if_pos hform]
        simp [hmodule, hform, hkind]
      · have hkind : recordKind name = none := by rw [recordKind, if_neg hmodule, if_neg hform]
        simp [hmodule, hform, hkind]

theorem getLast?_cached {Row : Type} {table : TimedTable} {names : List String}
    {tables : List (ℤ × List Row)} (h : RecordsOf table names tables) (cached : Option ℤ) :
    ((names.filter (recordKind · = some table)).getLast?).getD (cachedName table cached) =
      cachedName table ((tables.getLast?.map Prod.fst).or cached) := by
  rw [h.names, List.getLast?_map]
  cases tables.getLast? with
  | none => rfl
  | some entry => rfl

theorem initUsageGroupDatabase (h : Represents n d) :
    Represents n.initUsageGroupDatabase d.initUsageGroupDatabase := by
  unfold NamedState.initUsageGroupDatabase DatabaseState.initUsageGroupDatabase
  rw [foldl_initUsageGroupStep]
  refine { h with moduleName := ?_, formName := ?_, moduleFits := fun t ht => ?_ }
  · rw [h.moduleName]
    exact getLast?_cached h.modules _
  · rw [h.formName]
    exact getLast?_cached h.forms _
  · cases hlast : d.moduleTables.getLast? with
    | none =>
      rw [hlast] at ht
      exact h.moduleFits t ht
    | some entry =>
      rw [hlast] at ht
      rw [← Option.some_inj.1 ht]
      exact (h.modules.bounded entry (List.mem_of_getLast? hlast)).2

theorem setRecords (h : Represents n d) {names : List String} {moduleTables : List (ℤ × List ModuleRecordRow)}
    {formTables : List (ℤ × List FormRecordRow)} (hmodules : RecordsOf .moduleRecordLog names moduleTables)
    (hforms : RecordsOf .formRecordLog names formTables) {moduleTable formTable : Option ℤ}
    (hmodule : d.moduleRecordsTableName = moduleTable) (hform : d.formRecordsTableName = formTable) :
    Represents { n with groupNames := names }
      { d with
        moduleTables := moduleTables
        formTables := formTables
        moduleRecordsTableName := moduleTable
        formRecordsTableName := formTable } := by
  subst hmodule hform
  exact { h with modules := hmodules, forms := hforms }

theorem renewRecordTables (h : Represents n d) (timeDiff : ℤ)
    (hfits : ∀ t ∈ d.moduleRecordsTableName, FitsInt64 (parseStartTime t + timeDiff)) :
    Represents (n.renewRecordTables timeDiff) (d.renewRecordTables timeDiff) := by
  unfold NamedState.renewRecordTables DatabaseState.renewRecordTables
  cases hform : d.formRecordsTableName with
  | none =>
    rw [if_pos (.inl (by rw [h.formName, hform, cachedName]))]
    exact h
  | some formTable =>
    cases hmodule : d.moduleRecordsTableName with
    | none =>
      rw [if_pos (.inr (by rw [h.moduleName, hmodule, cachedName]))]
      exact h
    | some moduleTable =>
      have hknown : ¬ (n.formRecordsTableName = unknownTableName ∨
          n.moduleRecordsTableName = unknownTableName) := by
        rw [h.formName, h.moduleName, cachedName_eq_unknown, cachedName_eq_unknown, hform, hmodule]
        simp
      have hparse : parseTableName n.moduleRecordsTableName = parseStartTime moduleTable := by
        rw [h.moduleName, hmodule, cachedName,
          TimedTable.parseTableName_tableName _ (h.moduleFits moduleTable hmodule)]
      have hnew := hfits moduleTable hmodule
      rw [if_neg hknown]
      simp only [hparse]
      set oldTime := parseStartTime moduleTable
      set newTime := oldTime + timeDiff
      have hmodules := h.modules.rename (t := oldTime) hnew
      have hforms := h.forms.rename_other
        (TimedTable.moduleRecordLog.tableName oldTime) (TimedTable.moduleRecordLog.tableName newTime)
        (by simp [recordKind_module]) (by simp [recordKind_module])
      rw [h.modules.rename_success]
      cases (CreatedTables.rename d.moduleTables oldTime newTime).2 with
      | false =>
        simp only [Bool.false_eq_true, if_false]
        exact h.setRecords hmodules hforms hmodule hform
      | true =>
        have hsuccess := hforms.rename_success oldTime newTime
        have hmodules' := hmodules.rename_other
          (TimedTable.formRecordLog.tableName oldTime) (TimedTable.formRecordLog.tableName newTime)
          (by simp [recordKind_form]) (by simp [recordKind_form])
        have hforms' := hforms.rename (t := oldTime) hnew
        simp only [if_true, hsuccess]
        cases (CreatedTables.rename d.formTables oldTime newTime).2 with
        | false =>
          simp only [Bool.false_eq_true, if_false]
          exact h.setRecords hmodules' hforms' hmodule hform
        | true =>
          simp only [if_true]
          exact { h with
            modules := hmodules'
            forms := hforms'
            moduleName := rfl
            formName := rfl
            moduleFits := fun t ht => by rwa [← Option.some_inj.1 ht] }

/-! ### Rows alone -/

theorem modifyEvents (h : Represents n d) (t : ℤ) (f : List EventLogRow → List EventLogRow) :
    Represents n { d with eventTables := d.eventTables.modifyRows t f } :=
  { h with events := h.events.congr fun s => Tables.mem_modifyRows _ t s f }

theorem deleteExcessiveEventData (h : Represents n d) : Represents n d.deleteExcessiveEventData := by
  unfold DatabaseState.deleteExcessiveEventData DatabaseState.deleteEventRows
  split
  · exact h
  · split_ifs <;> first | exact h | exact h.modifyEvents _ _

theorem modifyRecords (h : Represents n d) (moduleTable formTable : ℤ)
    (f : List ModuleRecordRow → List ModuleRecordRow) (g : List FormRecordRow → List FormRecordRow) :
    Represents n
      { d with
        moduleTables := CreatedTables.modifyRows d.moduleTables moduleTable f
        formTables := CreatedTables.modifyRows d.formTables formTable g } :=
  { h with modules := h.modules.modifyRows moduleTable f, forms := h.forms.modifyRows formTable g }

theorem flushPackageInfo (h : Represents n d) (i : IntervalType) (stats : BundleActivePeriodStats) :
    Represents n (d.flushPackageInfo i stats) := by
  have hflushed := h.setPackages i ((h.packages i).congr fun t =>
    Tables.mem_modifyRows _ stats.beginTime t (DatabaseState.flushPackageRows stats))
  rwa [NamedState.setPackageNames, Function.update_eq_self] at hflushed

/-! ### Operations -/

theorem addPackageTable (h : Represents n d) (i : IntervalType) (ht : FitsInt64 t) :
    Represents (n.addPackageTable i t) (d.addPackageTable i t) := by
  have hcreated := h.createPackageLogTable i ht
  have hbegun : Represents
      (if i = .daily then { n.createPackageLogTable i t with eventBeginTime := t }
        else n.createPackageLogTable i t)
      (if i = .daily then
        { d.createPackageLogTable i t with eventBeginTime := t }.deleteExcessiveEventData
      else d.createPackageLogTable i t) := by
    split_ifs
    · exact deleteExcessiveEventData { hcreated with beginTime := rfl }
    · exact hcreated
  refine Represents.deleteExcessiveTableData ?_ i
  exact { hbegun with
    sorted := congrArg (fun sorted : IntervalType → List ℤ =>
      Function.update sorted i ((sorted i ++ [t]).insertionSort (· ≤ ·))) hbegun.sorted }

theorem updateBundleUsageData (h : Represents n d) (i : IntervalType) {stats : BundleActivePeriodStats}
    (ht : FitsInt64 stats.beginTime) :
    Represents (n.updateBundleUsageData i stats.beginTime) (d.updateBundleUsageData i stats) := by
  unfold NamedState.updateBundleUsageData DatabaseState.updateBundleUsageData
  rw [h.sorted]
  refine flushPackageInfo ?_ i stats
  split_ifs
  · exact h.addPackageTable i ht
  · exact h

theorem updateEventData (h : Represents n d) {stats : BundleActivePeriodStats}
    (ht : FitsInt64 stats.beginTime) : Represents
      (if stats.events.events = [] then n else n.initEventTable stats.beginTime)
      (d.updateEventData stats) := by
  unfold DatabaseState.updateEventData
  split_ifs
  · exact h
  · have hinit := h.initEventTable ht
    simp only
    cases hname : (d.initEventTable stats.beginTime).eventTableName with
    | none => exact hinit
    | some eventTable =>
      exact hinit.modifyEvents eventTable _

theorem updateModuleData (h : Represents n d) (moduleRecords : ModuleRecords) (ht : FitsInt64 t) :
    Represents (n.createRecordTable t) (d.updateModuleData moduleRecords t) := by
  have hcreated := h.createRecordTable ht
  unfold DatabaseState.updateModuleData
  simp only
  split
  · exact hcreated.modifyRecords _ _ _ _
  · exact hcreated

theorem moduleName_renewEventTable (d : DatabaseState) (timeDiff : ℤ) :
    (d.renewEventTable timeDiff).moduleRecordsTableName = d.moduleRecordsTableName := by
  unfold DatabaseState.renewEventTable
  split
  · rfl
  · simp only
    split_ifs <;> rfl

theorem renewAllPackageTables (h : Represents n d) (timeDiff : ℤ) {l : List IntervalType} (hl : l.Nodup)
    (hfits : ∀ i ∈ l, ∀ t ∈ d.sortedTableArray i, FitsInt64 (t + timeDiff)) :
    Represents (l.foldl (NamedState.renewPackageTables timeDiff) n)
      (l.foldl (DatabaseState.renewPackageTables timeDiff) d) := by
  induction l generalizing n d with
  | nil => exact h
  | cons i l ih =>
    obtain ⟨hi, hl⟩ := List.nodup_cons.1 hl
    refine ih (h.renewPackageTables timeDiff i (hfits i List.mem_cons_self)) hl fun j hj => ?_
    have hne : j ≠ i := fun heq => hi (heq ▸ hj)
    rw [(DatabaseState.sameType_renewPackageTables hne timeDiff d).arrays]
    exact hfits j (List.mem_cons_of_mem i hj)

theorem renewTableTime (h : Represents n d) (timeDiff : ℤ)
    (harray : ∀ i, ∀ t ∈ d.sortedTableArray i, FitsInt64 (t + timeDiff))
    (hevent : ∀ t ∈ d.eventTableName, FitsInt64 (parseStartTime t + timeDiff))
    (hmodule : ∀ t ∈ d.moduleRecordsTableName, FitsInt64 (parseStartTime t + timeDiff)) :
    Represents (n.renewTableTime timeDiff) (d.renewTableTime timeDiff) := by
  have hpackages := h.renewAllPackageTables timeDiff (by decide : IntervalType.all.Nodup)
    fun i _ => harray i
  have hnamed := DatabaseState.named_foldl (DatabaseState.named_renewPackageTables timeDiff)
    IntervalType.all d
  unfold DatabaseState.named at hnamed
  simp only [Prod.mk.injEq] at hnamed
  obtain ⟨-, heventName, -, hmoduleName, -⟩ := hnamed
  refine (hpackages.renewEventTable timeDiff (heventName ▸ hevent)).renewRecordTables timeDiff ?_
  rw [moduleName_renewEventTable, hmoduleName]
  exact hmodule

theorem fresh (h : Represents n d) (debugDatabase : Bool) : Represents
    { debugDatabase := debugDatabase, toNamedDatabases := n.toNamedDatabases }
    { debugDatabase := debugDatabase, toDatabaseFiles := d.toDatabaseFiles } where
  packages := h.packages
  events := h.events
  modules := h.modules
  forms := h.forms
  sorted := rfl
  eventName := rfl
  moduleName := rfl
  formName := rfl
  eventFits := fun t ht => by cases ht
  moduleFits := fun t ht => by cases ht
  beginTime := rfl
  debug := rfl

theorem deleteFutureEventTable (h : Represents n d) (now : ℤ) : Represents
    (if n.eventTableName ≠ unknownTableName ∧ now < parseTableName n.eventTableName then
      { (n.deleteEventTable (parseTableName n.eventTableName)).1 with
        eventTableName := unknownTableName }
    else n)
    (match d.eventTableName with
    | none => d
    | some eventTable =>
      if now < parseStartTime eventTable then
        { d with
          eventTables := (d.eventTables.drop (parseStartTime eventTable)).1
          eventTableName := none }
      else d) := by
  cases hname : d.eventTableName with
  | none =>
    rw [if_neg fun hfuture => hfuture.1 (by rw [h.eventName, hname, cachedName])]
    exact h
  | some eventTable =>
    have hknown : n.eventTableName ≠ unknownTableName := by
      rw [h.eventName, hname]
      exact TimedTable.tableName_ne_unknown _ _
    have hparse : parseTableName n.eventTableName = parseStartTime eventTable := by
      rw [h.eventName, hname, cachedName,
        TimedTable.parseTableName_tableName _ (h.eventFits eventTable hname)]
    simp only [hparse, ne_eq, hknown, not_false_eq_true, true_and]
    split_ifs
    · exact (h.setEvents (h.events.drop (parseStartTime eventTable)) none fun t ht => by cases ht)
    · exact h

theorem initDatabaseTableInfo (h : Represents n d) {now : ℤ} (hnow : FitsInt64 now) :
    Represents (n.initDatabaseTableInfo now) (d.initDatabaseTableInfo now) := by
  have hpackages := h.handleAndDelete.handleEventTableInfo.deleteExcessiveEventData
  have hpast := hpackages.foldl (f := NamedState.deleteFutureTables now)
    (g := DatabaseState.deleteFutureTables now) (l := IntervalType.all)
    fun i _ _ _ h => h.deleteFutureTables now i
  exact (hpast.deleteFutureEventTable now).initEventTable hnow

end Represents

/-! ### Runs -/

/-- The times of an operation fit `int64_t`, those it makes of cached start times too. -/
def DatabaseState.Fits (d : DatabaseState) : TableOp → Prop
  | .database (.initDatabaseTableInfo currentTime _) => FitsInt64 currentTime
  | .database (.updateBundleUsageData _ stats) => FitsInt64 stats.beginTime
  | .database (.updateEventData stats) => FitsInt64 stats.beginTime
  | .database (.renewTableTime timeDiff) =>
    (∀ i, ∀ t ∈ d.sortedTableArray i, FitsInt64 (t + timeDiff)) ∧
      (∀ t ∈ d.eventTableName, FitsInt64 (parseStartTime t + timeDiff)) ∧
        ∀ t ∈ d.moduleRecordsTableName, FitsInt64 (parseStartTime t + timeDiff)
  | .database (.removeOldData _) => True
  | .initUsageGroupDatabase => True
  | .updateModuleData _ timeStamp => FitsInt64 timeStamp

/-- The operations of a run fit where they are made. -/
def DatabaseState.FitsRun (d : DatabaseState) : List TableOp → Prop
  | [] => True
  | op :: ops => d.Fits op ∧ (d.applyTable op).FitsRun ops

theorem Represents.applyTable {n : NamedState} {d : DatabaseState} (h : Represents n d) {op : TableOp}
    (hop : d.Fits op) : Represents (n.applyTable op) (d.applyTable op) := by
  cases op with
  | database op =>
    cases op with
    | initDatabaseTableInfo currentTime debugDatabase =>
      exact (h.fresh debugDatabase).initDatabaseTableInfo hop
    | updateBundleUsageData i stats => exact h.updateBundleUsageData i hop
    | updateEventData stats => exact h.updateEventData hop
    | renewTableTime timeDiff => exact h.renewTableTime timeDiff hop.1 hop.2.1 hop.2.2
    | removeOldData currentTime => exact h.removeOldData currentTime
  | initUsageGroupDatabase => exact h.initUsageGroupDatabase
  | updateModuleData moduleRecords timeStamp => exact h.updateModuleData moduleRecords hop

/-- Whatever the database object does, its names are those of the start times. -/
theorem Represents.names_run {n : NamedState} {d : DatabaseState} (h : Represents n d)
    {ops : List TableOp} (hops : d.FitsRun ops) :
    Represents (ops.foldl NamedState.applyTable n) (ops.foldl DatabaseState.applyTable d) := by
  induction ops generalizing n d with
  | nil => exact h
  | cons op ops ih => exact ih (h.applyTable hops.1) hops.2

def oneDayTable : DatabaseState :=
  { sortedTableArray := Function.update (fun _ => []) .daily [1709251200000]
    packageTables := fun i => if i = .daily then Tables.create {} 1709251200000 else {} }

def oneDayName : NamedState :=
  { sortedTableArray := oneDayTable.sortedTableArray
    packageNames := fun i => if i = .daily then ["PackageLog1709251200000"] else [] }

theorem represents_oneDay : Represents oneDayName oneDayTable := by
  have hnone : ∀ {Row : Type} (table : TimedTable), NamesOf table [] ({} : Tables Row) := fun table =>
    { nodup := List.nodup_nil, mem := by simp, bounded := by simp }
  refine {
    packages := fun i => ?_
    events := hnone .eventLog
    modules := { kind := recordKind_module, names := rfl, bounded := by simp [oneDayTable] }
    forms := { kind := recordKind_form, names := rfl, bounded := by simp [oneDayTable] }
    sorted := rfl
    eventName := rfl
    moduleName := rfl
    formName := rfl
    eventFits := fun t ht => by cases ht
    moduleFits := fun t ht => by cases ht
    beginTime := rfl
    debug := rfl }
  unfold oneDayName oneDayTable
  simp only
  split_ifs
  · exact (hnone .packageLog).create (t := 1709251200000) (by norm_num [FitsInt64])
  · exact hnone .packageLog

theorem names_run_moved :
    Represents
      ([TableOp.database (.renewTableTime 3600000), .database (.initDatabaseTableInfo 1709258400000 false),
        .updateModuleData {} 1709258400000].foldl NamedState.applyTable oneDayName)
      ([TableOp.database (.renewTableTime 3600000), .database (.initDatabaseTableInfo 1709258400000 false),
        .updateModuleData {} 1709258400000].foldl DatabaseState.applyTable oneDayTable) := by
  have hmoved : ∀ i, ∀ t ∈ oneDayTable.sortedTableArray i, FitsInt64 (t + 3600000) := by
    intro i t ht
    cases i <;> simp [oneDayTable] at ht
    rw [ht]
    norm_num [FitsInt64]
  have hnow : FitsInt64 1709258400000 := by norm_num [FitsInt64]
  refine represents_oneDay.names_run ⟨⟨hmoved, ?_, ?_⟩, hnow, hnow, trivial⟩
  · simp [oneDayTable]
  · simp [oneDayTable]

end DeviceUsageStats
