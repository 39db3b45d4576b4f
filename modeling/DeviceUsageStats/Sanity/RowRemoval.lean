import DeviceUsageStats.Spec.RecordTables
import DeviceUsageStats.Sanity.Caches

/-! What a removal by user and bundle leaves in the tables. The database object visits the tables of its
caches only, so no row of a kind is left exactly if all of them stand there. -/

namespace DeviceUsageStats

/-- The rows of a table that pass a test are those of its start time. -/
theorem getElem?_foldl_modifyRows {Row : Type} (tables : Tables Row) (p : Row → Bool) (l : List ℤ)
    (x : ℤ) :
    (l.foldl (fun tables tableTime => tables.modifyRows tableTime (·.filter p)) tables)[x]? =
      if x ∈ l then (tables[x]?).map (·.filter p) else tables[x]? := by
  induction l generalizing tables with
  | nil => simp
  | cons t l ih =>
    rw [List.foldl_cons, ih, Tables.getElem?_modifyRows]
    by_cases ht : x = t
    · cases tables[x]? <;> simp [ht]
    · simp [ht]

/-- A removal by name leaves no row of a kind exactly if they all stand in a table of that name. -/
theorem forall_foldl_modifyRows_iff {Row : Type} (tables : Tables Row) {Of : Row → Prop}
    {gone : Row → Bool} (hgone : ∀ row, Of row → gone row = true) (l : List ℤ) :
    (∀ table ∈ (l.foldl (fun tables tableTime =>
        tables.modifyRows tableTime (·.filter fun row => !gone row)) tables).toList,
      ∀ row ∈ table.2, ¬ Of row) ↔
      ∀ table ∈ tables.toList, ∀ row ∈ table.2, Of row → table.1 ∈ l := by
  have hread := getElem?_foldl_modifyRows tables (fun row => !gone row) l
  constructor
  · intro h table htable row hrow hof
    by_contra hnot
    refine h table ?_ row hrow hof
    rw [Std.TreeMap.mem_toList_iff_getElem?_eq_some] at htable ⊢
    rw [hread, if_neg hnot, htable]
  · intro h table htable row hrow hof
    rw [Std.TreeMap.mem_toList_iff_getElem?_eq_some, hread] at htable
    split_ifs at htable with hl
    · obtain ⟨rows, -, hrows⟩ := Option.map_eq_some_iff.1 htable
      rw [← hrows, List.mem_filter, hgone row hof] at hrow
      exact Bool.false_ne_true hrow.2
    · exact hl (h table (Std.TreeMap.mem_toList_iff_getElem?_eq_some.2 htable) row hrow hof)

theorem forall_modifyRows_iff {Row : Type} (tables : List (ℤ × List Row)) {Of : Row → Prop}
    {gone : Row → Bool} (hgone : ∀ row, Of row → gone row = true) (name : Option ℤ) :
    (∀ table ∈ name.elim tables fun t =>
        CreatedTables.modifyRows tables t (·.filter fun row => !gone row),
      ∀ row ∈ table.2, ¬ Of row) ↔
      ∀ table ∈ tables, ∀ row ∈ table.2, Of row → name = some table.1 := by
  cases name with
  | none =>
    refine forall₂_congr fun table _ => forall₂_congr fun row _ => ?_
    simp
  | some t =>
    simp only [Option.elim_some, CreatedTables.modifyRows, Option.some_inj]
    constructor
    · intro h table htable row hrow hof
      by_contra hne
      refine h table (List.mem_map.2 ⟨table, htable, ?_⟩) row hrow hof
      rw [if_neg (Ne.symm hne)]
    · intro h table htable row hrow hof
      obtain ⟨old, hold, rfl⟩ := List.mem_map.1 htable
      split_ifs at hrow with ht
      · rw [List.mem_filter, hgone row hof] at hrow
        exact Bool.false_ne_true hrow.2
      · exact ht (h old hold row hrow hof).symm

/-- No table has a row of some users and bundles. -/
structure NoRowOf (files : DatabaseFiles) (Of : ℤ → String → Prop) : Prop where
  packages : ∀ i, ∀ table ∈ (files.packageTables i).toList, ∀ row ∈ table.2,
    ¬ Of row.userId row.bundleName
  events : ∀ table ∈ files.eventTables.toList, ∀ row ∈ table.2, ¬ Of row.userId row.bundleName
  modules : ∀ table ∈ files.moduleTables, ∀ row ∈ table.2, ¬ Of row.userId row.bundleName
  forms : ∀ table ∈ files.formTables, ∀ row ∈ table.2, ¬ Of row.userId row.bundleName

/-- The rows of some users and bundles stand in tables that the object has in its caches. -/
structure RowsListedOf (d : DatabaseState) (Of : ℤ → String → Prop) : Prop where
  packages : ∀ i, ∀ table ∈ (d.packageTables i).toList, ∀ row ∈ table.2,
    Of row.userId row.bundleName → table.1 ∈ d.sortedTableArray i
  events : ∀ table ∈ d.eventTables.toList, ∀ row ∈ table.2,
    Of row.userId row.bundleName → d.eventTableName = some table.1
  modules : ∀ table ∈ d.moduleTables, ∀ row ∈ table.2,
    Of row.userId row.bundleName → d.moduleRecordsTableName = some table.1
  forms : ∀ table ∈ d.formTables, ∀ row ∈ table.2,
    Of row.userId row.bundleName → d.formRecordsTableName = some table.1

namespace DatabaseState

variable (d : DatabaseState) (u : ℤ) (b : String) (uid appIndex : ℤ)

theorem eventTables_onPackageUninstalled :
    (d.onPackageUninstalled u b uid appIndex).eventTables =
      d.eventTableName.toList.foldl (fun tables tableTime => tables.modifyRows tableTime
        (·.filter fun row => !uninstalledRow u b uid appIndex row.userId row.bundleName row.uid))
        d.eventTables := by
  unfold onPackageUninstalled
  cases d.eventTableName <;> rfl

theorem moduleTables_onPackageUninstalled :
    (d.onPackageUninstalled u b uid appIndex).moduleTables =
      d.moduleRecordsTableName.elim d.moduleTables fun t => CreatedTables.modifyRows d.moduleTables t
        (·.filter fun row =>
          !uninstalledRow u b uid appIndex row.userId row.bundleName row.uid) := by
  unfold onPackageUninstalled
  cases d.moduleRecordsTableName <;> rfl

theorem formTables_onPackageUninstalled :
    (d.onPackageUninstalled u b uid appIndex).formTables =
      d.formRecordsTableName.elim d.formTables fun t => CreatedTables.modifyRows d.formTables t
        (·.filter fun row =>
          !uninstalledRow u b uid appIndex row.userId row.bundleName row.uid) := by
  unfold onPackageUninstalled
  cases d.formRecordsTableName <;> rfl

/-- A removal that covers some users and bundles leaves no row of them exactly if the object knows where
they are. -/
theorem noRowOf_onPackageUninstalled_iff (Of : ℤ → String → Prop)
    (covers : ∀ rowUser rowName rowUid, Of rowUser rowName →
      uninstalledRow u b uid appIndex rowUser rowName rowUid = true) :
    NoRowOf (d.onPackageUninstalled u b uid appIndex).toDatabaseFiles Of ↔ RowsListedOf d Of := by
  have hpackages := fun i => forall_foldl_modifyRows_iff (d.packageTables i)
    (fun (row : PackageLogRow) h => covers row.userId row.bundleName row.uid h)
    (d.sortedTableArray i)
  have hevents := forall_foldl_modifyRows_iff d.eventTables
    (fun (row : EventLogRow) h => covers row.userId row.bundleName row.uid h)
    d.eventTableName.toList
  have hmodules := forall_modifyRows_iff d.moduleTables
    (fun (row : ModuleRecordRow) h => covers row.userId row.bundleName row.uid h)
    d.moduleRecordsTableName
  have hforms := forall_modifyRows_iff d.formTables
    (fun (row : FormRecordRow) h => covers row.userId row.bundleName row.uid h)
    d.formRecordsTableName
  simp only [Option.mem_toList] at hevents
  rw [← eventTables_onPackageUninstalled] at hevents
  rw [← moduleTables_onPackageUninstalled] at hmodules
  rw [← formTables_onPackageUninstalled] at hforms
  exact ⟨fun h => ⟨fun i => (hpackages i).1 (h.packages i), hevents.1 h.events,
      hmodules.1 h.modules, hforms.1 h.forms⟩,
    fun h => ⟨fun i => (hpackages i).2 (h.packages i), hevents.2 h.events, hmodules.2 h.modules,
      hforms.2 h.forms⟩⟩

end DatabaseState

end DeviceUsageStats
