import DeviceUsageStats.Sanity.RowRemoval
import DeviceUsageStats.Spec.ServiceQuery

/-! What the removal of a bundle leaves of the others. Events are removed by name and uid and rows by
their columns, but the statistics are removed by usage key, which two bundles may share, and the module
records by a part of their key, which other names and uids may contain. -/

namespace DeviceUsageStats

/-- A removal of a bundle, or of one clone of it, should not touch this. -/
def OtherBundle (bundleName : String) (uid appIndex : ℤ) (name : String) (ofUid : ℤ) : Prop :=
  name ≠ bundleName ∨ appIndex ≠ 0 ∧ ofUid ≠ uid

instance (b : String) (uid appIndex : ℤ) (name : String) (ofUid : ℤ) :
    Decidable (OtherBundle b uid appIndex name ofUid) :=
  inferInstanceAs (Decidable (_ ∨ _))

def OtherRow (userId : ℤ) (bundleName : String) (uid appIndex rowUser : ℤ) (rowName : String)
    (rowUid : ℤ) : Prop :=
  rowUser ≠ userId ∨ OtherBundle bundleName uid appIndex rowName rowUid

instance (u : ℤ) (b : String) (uid appIndex rowUser : ℤ) (rowName : String) (rowUid : ℤ) :
    Decidable (OtherRow u b uid appIndex rowUser rowName rowUid) :=
  inferInstanceAs (Decidable (_ ∨ _))

/-! ### Tables -/

theorem filter_filter_iff {α : Type*} (l : List α) (p q : α → Bool) :
    (l.filter p).filter q = l.filter q ↔ ∀ x ∈ l, q x = true → p x = true := by
  constructor
  · intro h x hx hq
    have hmem : x ∈ (l.filter p).filter q := h ▸ List.mem_filter.2 ⟨hx, hq⟩
    exact (List.mem_filter.1 (List.mem_filter.1 hmem).1).2
  · intro h
    rw [List.filter_filter]
    refine List.filter_congr fun x hx => ?_
    cases hq : q x with
    | false => rfl
    | true => rw [h x hx hq]; rfl

theorem rowsKept_foldl_iff {Row : Type} (tables : Tables Row) (gone kept : Row → Bool)
    (l : List ℤ) :
    (∀ x : ℤ, ((l.foldl (fun tables tableTime =>
        tables.modifyRows tableTime (·.filter fun row => !gone row)) tables)[x]?).map
          (·.filter kept) = (tables[x]?).map (·.filter kept)) ↔
      ∀ x ∈ l, ∀ row ∈ tables.rows x, kept row = true → gone row = false := by
  refine forall_congr' fun x => ?_
  rw [getElem?_foldl_modifyRows]
  unfold Tables.rows
  by_cases hx : x ∈ l
  · rw [if_pos hx]
    cases tables[x]? with
    | none => simp
    | some rows =>
      simp only [Option.map_some, Option.some_inj, filter_filter_iff, Option.getD_some,
        Bool.not_eq_true']
      exact ⟨fun h _ => h, fun h => h hx⟩
  · simp [hx]

theorem rowsKept_modifyRows_iff {Row : Type} (tables : List (ℤ × List Row)) (gone kept : Row → Bool)
    (name : Option ℤ) :
    ((name.elim tables fun t =>
        CreatedTables.modifyRows tables t (·.filter fun row => !gone row)).map
          (fun table => (table.1, table.2.filter kept)) =
        tables.map fun table => (table.1, table.2.filter kept)) ↔
      ∀ table ∈ tables, name = some table.1 → ∀ row ∈ table.2, kept row = true →
        gone row = false := by
  cases name with
  | none => simp
  | some t =>
    simp only [Option.elim_some, CreatedTables.modifyRows, List.map_map, List.map_inj_left,
      Option.some_inj]
    refine forall₂_congr fun table _ => ?_
    by_cases ht : table.1 = t
    · simp only [Function.comp_apply, if_pos ht, Prod.mk.injEq, true_and, filter_filter_iff,
        Bool.not_eq_true']
      exact ⟨fun h _ => h, fun h => h ht.symm⟩
    · simp [ht, Ne.symm ht]

/-! ### One removal -/

namespace ServiceState

variable (s : ServiceState) (b : String) (uid appIndex : ℤ)

def erasedKeys : List String :=
  if appIndex ≠ 0 then [getBundleUsageKey b uid]
  else (s.packageContainUidMap.getPackageUidSet b).toList.map (getBundleUsageKey b)

/-- What a removal looks for in the keys of the module records. -/
def recordPattern : String := if appIndex ≠ 0 then b ++ " " ++ toString uid else b

/-- The statistics, events, module records and rows of everything else are as they were. -/
structure OthersKept (s' : ServiceState) : Prop where
  stats : ∀ i (k : String) e, OtherBundle b uid appIndex e.bundleName e.uid →
    ((s'.currentStats i).bundleStats[k]? = some e ↔ (s.currentStats i).bundleStats[k]? = some e)
  events : ∀ i, (s'.currentStats i).events.events.filter
      (fun e => OtherBundle b uid appIndex e.bundleName e.uid) =
    (s.currentStats i).events.events.filter fun e => OtherBundle b uid appIndex e.bundleName e.uid
  records : ∀ (k : String) r, OtherBundle b uid appIndex r.bundleName r.uid →
    (s'.moduleRecords[k]? = some r ↔ s.moduleRecords[k]? = some r)
  packageRows : ∀ i (x : ℤ), ((s'.files.packageTables i)[x]?).map
      (·.filter fun row => OtherRow s.userId b uid appIndex row.userId row.bundleName row.uid) =
    ((s.files.packageTables i)[x]?).map
      (·.filter fun row => OtherRow s.userId b uid appIndex row.userId row.bundleName row.uid)
  eventRows : ∀ x : ℤ, (s'.files.eventTables[x]?).map
      (·.filter fun row => OtherRow s.userId b uid appIndex row.userId row.bundleName row.uid) =
    (s.files.eventTables[x]?).map
      (·.filter fun row => OtherRow s.userId b uid appIndex row.userId row.bundleName row.uid)
  moduleRows : s'.files.moduleTables.map (fun table => (table.1, table.2.filter fun row =>
      OtherRow s.userId b uid appIndex row.userId row.bundleName row.uid)) =
    s.files.moduleTables.map fun table => (table.1, table.2.filter fun row =>
      OtherRow s.userId b uid appIndex row.userId row.bundleName row.uid)
  formRows : s'.files.formTables.map (fun table => (table.1, table.2.filter fun row =>
      OtherRow s.userId b uid appIndex row.userId row.bundleName row.uid)) =
    s.files.formTables.map fun table => (table.1, table.2.filter fun row =>
      OtherRow s.userId b uid appIndex row.userId row.bundleName row.uid)

/-- The rows of the user, in the tables that the object knows, that a removal without a name takes. -/
structure NamelessRows : Prop where
  packages : ∀ i, ∀ x ∈ s.database.sortedTableArray i, ∀ row ∈ (s.files.packageTables i).rows x,
    row.userId = s.userId → ¬ OtherBundle b uid appIndex row.bundleName row.uid
  events : ∀ x, s.database.eventTableName = some x → ∀ row ∈ s.files.eventTables.rows x,
    row.userId = s.userId → ¬ OtherBundle b uid appIndex row.bundleName row.uid
  modules : ∀ table ∈ s.files.moduleTables, s.database.moduleRecordsTableName = some table.1 →
    ∀ row ∈ table.2, row.userId = s.userId → ¬ OtherBundle b uid appIndex row.bundleName row.uid
  forms : ∀ table ∈ s.files.formTables, s.database.formRecordsTableName = some table.1 →
    ∀ row ∈ table.2, row.userId = s.userId → ¬ OtherBundle b uid appIndex row.bundleName row.uid

/-- No other bundle stands under an erased usage key or in a module key that contains the pattern, and a
removal without a name finds no rows of other bundles. -/
structure OthersApart : Prop where
  stats : ∀ i (k : String) e, (s.currentStats i).bundleStats[k]? = some e →
    OtherBundle b uid appIndex e.bundleName e.uid → k ∉ s.erasedKeys b uid appIndex
  records : ∀ (k : String) r, s.moduleRecords[k]? = some r →
    OtherBundle b uid appIndex r.bundleName r.uid →
      ¬ (recordPattern b uid appIndex).toList <:+: k.toList
  rows : b = "" → s.NamelessRows b uid appIndex

theorem currentStats_deleteUninstalled (i : IntervalType) :
    (s.deleteUninstalledBundleStats b uid appIndex).currentStats i =
      s.deleteMemEvent b uid appIndex (s.deleteMemUsageStats b uid appIndex (s.currentStats i)) := by
  cases i <;> rfl

theorem getElem?_deleteMemUsageStats (p : BundleActivePeriodStats) (k : String) :
    (s.deleteMemUsageStats b uid appIndex p).bundleStats[k]? =
      if k ∈ s.erasedKeys b uid appIndex then none else p.bundleStats[k]? := by
  unfold deleteMemUsageStats erasedKeys
  by_cases happ : appIndex ≠ 0
  · simp only [if_pos happ, List.mem_singleton, Std.TreeMap.getElem?_erase, Std.compare_eq_iff_eq,
      eq_comm (a := k)]
  · simp only [if_neg happ]
    exact Entries.getElem?_foldl_erase (getBundleUsageKey b) _ p.bundleStats k

theorem statsKept_iff (p : BundleActivePeriodStats) :
    (∀ (k : String) e, OtherBundle b uid appIndex e.bundleName e.uid →
        ((s.deleteMemUsageStats b uid appIndex p).bundleStats[k]? = some e ↔
          p.bundleStats[k]? = some e)) ↔
      ∀ (k : String) e, p.bundleStats[k]? = some e →
        OtherBundle b uid appIndex e.bundleName e.uid → k ∉ s.erasedKeys b uid appIndex := by
  simp only [getElem?_deleteMemUsageStats]
  constructor
  · intro h k e hk hother hmem
    have := (h k e hother).2 hk
    rw [if_pos hmem] at this
    cases this
  · intro h k e hother
    by_cases hmem : k ∈ s.erasedKeys b uid appIndex
    · rw [if_pos hmem]
      exact ⟨fun hk => (by cases hk), fun hk => absurd hmem (h k e hk hother)⟩
    · rw [if_neg hmem]

theorem eventsKept (p : BundleActivePeriodStats) :
    (s.deleteMemEvent b uid appIndex p).events.events.filter
        (fun e => OtherBundle b uid appIndex e.bundleName e.uid) =
      p.events.events.filter fun e => OtherBundle b uid appIndex e.bundleName e.uid := by
  unfold deleteMemEvent BundleActiveEventList.eraseIf
  by_cases happ : appIndex ≠ 0
  · rw [if_pos happ]
    refine (filter_filter_iff _ _ _).2 fun e _ hother => ?_
    rcases of_decide_eq_true hother with hname | ⟨-, huid⟩
    · simp [hname]
    · simp [huid]
  · rw [if_neg happ]
    refine (filter_filter_iff _ _ _).2 fun e _ hother => ?_
    rcases of_decide_eq_true hother with hname | ⟨hne, -⟩
    · simp [hname]
    · exact absurd hne happ

theorem recordsKept_iff :
    (∀ (k : String) r, OtherBundle b uid appIndex r.bundleName r.uid →
        ((s.deleteMemRecords b uid appIndex).moduleRecords[k]? = some r ↔
          s.moduleRecords[k]? = some r)) ↔
      ∀ (k : String) r, s.moduleRecords[k]? = some r →
        OtherBundle b uid appIndex r.bundleName r.uid →
          ¬ (recordPattern b uid appIndex).toList <:+: k.toList := by
  have hread : ∀ k : String, (s.deleteMemRecords b uid appIndex).moduleRecords[k]? =
      (s.moduleRecords[k]?).filter fun _ => !isSubstringOf (recordPattern b uid appIndex) k :=
    Entries.getElem?_eraseEntries (fun key _ =>
      isSubstringOf (recordPattern b uid appIndex) key) s.moduleRecords
  simp only [hread, Option.filter_eq_some_iff, isSubstringOf, Bool.not_eq_true',
    decide_eq_false_iff_not]
  constructor
  · intro h k r hk hother
    exact ((h k r hother).2 hk).2
  · intro h k r hother
    exact ⟨fun hk => hk.1, fun hk => ⟨hk, h k r hk hother⟩⟩

theorem rowKept_iff (u rowUser : ℤ) (rowName : String) (rowUid : ℤ) :
    (OtherRow u b uid appIndex rowUser rowName rowUid →
        DatabaseState.uninstalledRow u b uid appIndex rowUser rowName rowUid = false) ↔
      (b = "" → rowUser = u → ¬ OtherBundle b uid appIndex rowName rowUid) := by
  unfold DatabaseState.uninstalledRow OtherRow
  by_cases hb : b = ""
  · rw [if_pos hb, decide_eq_false_iff_not]
    constructor
    · intro h _ huser hother
      exact h (.inr hother) huser
    · rintro h (hne | hother) huser
      · exact hne huser
      · exact h hb huser hother
  · rw [if_neg hb]
    refine iff_of_true (fun h => ?_) fun h => absurd h hb
    split_ifs with happ
    · rw [decide_eq_false_iff_not]
      rintro ⟨huser, hname⟩
      rcases h with hne | hne | ⟨hne, -⟩
      · exact hne huser
      · exact hne hname
      · exact hne happ
    · rw [decide_eq_false_iff_not]
      rintro ⟨huser, hname, huid⟩
      rcases h with hne | hne | ⟨-, hne⟩
      · exact hne huser
      · exact hne hname
      · exact hne huid

theorem packageRowsKept_iff (i : IntervalType) :
    (∀ x : ℤ, (((s.deleteUninstalledBundleStats b uid appIndex).files.packageTables i)[x]?).map
        (·.filter fun row => OtherRow s.userId b uid appIndex row.userId row.bundleName row.uid) =
      ((s.files.packageTables i)[x]?).map
        (·.filter fun row => OtherRow s.userId b uid appIndex row.userId row.bundleName row.uid)) ↔
      (b = "" → ∀ x ∈ s.database.sortedTableArray i, ∀ row ∈ (s.files.packageTables i).rows x,
        row.userId = s.userId → ¬ OtherBundle b uid appIndex row.bundleName row.uid) := by
  refine (rowsKept_foldl_iff (s.files.packageTables i)
    (fun row => DatabaseState.uninstalledRow s.userId b uid appIndex row.userId row.bundleName
      row.uid) _ (s.database.sortedTableArray i)).trans ?_
  simp only [decide_eq_true_eq, rowKept_iff]
  exact ⟨fun h hb x hx row hrow => h x hx row hrow hb, fun h x hx row hrow hb => h hb x hx row hrow⟩

theorem files_deleteUninstalled : (s.deleteUninstalledBundleStats b uid appIndex).files =
    (s.databaseState.onPackageUninstalled s.userId b uid appIndex).toDatabaseFiles := rfl

theorem eventRowsKept_iff :
    (∀ x : ℤ, ((s.deleteUninstalledBundleStats b uid appIndex).files.eventTables[x]?).map
        (·.filter fun row => OtherRow s.userId b uid appIndex row.userId row.bundleName row.uid) =
      (s.files.eventTables[x]?).map
        (·.filter fun row => OtherRow s.userId b uid appIndex row.userId row.bundleName row.uid)) ↔
      (b = "" → ∀ x, s.database.eventTableName = some x → ∀ row ∈ s.files.eventTables.rows x,
        row.userId = s.userId → ¬ OtherBundle b uid appIndex row.bundleName row.uid) := by
  have htables := DatabaseState.eventTables_onPackageUninstalled s.databaseState s.userId b uid
    appIndex
  have hkept := rowsKept_foldl_iff s.files.eventTables
    (fun row => DatabaseState.uninstalledRow s.userId b uid appIndex row.userId row.bundleName
      row.uid)
    (fun row => OtherRow s.userId b uid appIndex row.userId row.bundleName row.uid)
    s.database.eventTableName.toList
  simp only [Option.mem_toList, decide_eq_true_eq, rowKept_iff] at hkept
  rw [files_deleteUninstalled, htables]
  refine Iff.trans Iff.rfl (hkept.trans ?_)
  · exact ⟨fun h hb x hx row hrow => h x hx row hrow hb, fun h x hx row hrow hb => h hb x hx row hrow⟩

theorem moduleRowsKept_iff :
    ((s.deleteUninstalledBundleStats b uid appIndex).files.moduleTables.map (fun table =>
        (table.1, table.2.filter fun row =>
          OtherRow s.userId b uid appIndex row.userId row.bundleName row.uid)) =
      s.files.moduleTables.map fun table => (table.1, table.2.filter fun row =>
        OtherRow s.userId b uid appIndex row.userId row.bundleName row.uid)) ↔
      (b = "" → ∀ table ∈ s.files.moduleTables, s.database.moduleRecordsTableName = some table.1 →
        ∀ row ∈ table.2, row.userId = s.userId →
          ¬ OtherBundle b uid appIndex row.bundleName row.uid) := by
  have htables := DatabaseState.moduleTables_onPackageUninstalled s.databaseState s.userId b uid
    appIndex
  have hkept := rowsKept_modifyRows_iff s.files.moduleTables
    (fun row => DatabaseState.uninstalledRow s.userId b uid appIndex row.userId row.bundleName
      row.uid)
    (fun row => OtherRow s.userId b uid appIndex row.userId row.bundleName row.uid)
    s.database.moduleRecordsTableName
  simp only [decide_eq_true_eq, rowKept_iff] at hkept
  rw [files_deleteUninstalled, htables]
  refine Iff.trans Iff.rfl (hkept.trans ?_)
  · exact ⟨fun h hb table ht hname row hrow => h table ht hname row hrow hb,
      fun h table ht hname row hrow hb => h hb table ht hname row hrow⟩

theorem formRowsKept_iff :
    ((s.deleteUninstalledBundleStats b uid appIndex).files.formTables.map (fun table =>
        (table.1, table.2.filter fun row =>
          OtherRow s.userId b uid appIndex row.userId row.bundleName row.uid)) =
      s.files.formTables.map fun table => (table.1, table.2.filter fun row =>
        OtherRow s.userId b uid appIndex row.userId row.bundleName row.uid)) ↔
      (b = "" → ∀ table ∈ s.files.formTables, s.database.formRecordsTableName = some table.1 →
        ∀ row ∈ table.2, row.userId = s.userId →
          ¬ OtherBundle b uid appIndex row.bundleName row.uid) := by
  have htables := DatabaseState.formTables_onPackageUninstalled s.databaseState s.userId b uid
    appIndex
  have hkept := rowsKept_modifyRows_iff s.files.formTables
    (fun row => DatabaseState.uninstalledRow s.userId b uid appIndex row.userId row.bundleName
      row.uid)
    (fun row => OtherRow s.userId b uid appIndex row.userId row.bundleName row.uid)
    s.database.formRecordsTableName
  simp only [decide_eq_true_eq, rowKept_iff] at hkept
  rw [files_deleteUninstalled, htables]
  refine Iff.trans Iff.rfl (hkept.trans ?_)
  · exact ⟨fun h hb table ht hname row hrow => h table ht hname row hrow hb,
      fun h table ht hname row hrow hb => h hb table ht hname row hrow⟩

theorem events_deleteMemUsageStats (p : BundleActivePeriodStats) :
    (s.deleteMemUsageStats b uid appIndex p).events = p.events := by
  unfold deleteMemUsageStats
  split_ifs <;> rfl

theorem bundleStats_deleteMemEvent (p : BundleActivePeriodStats) :
    (s.deleteMemEvent b uid appIndex p).bundleStats = p.bundleStats := by
  unfold deleteMemEvent
  split_ifs <;> rfl

/-- In every state a removal leaves all other bundles as they are exactly if they are apart from it. -/
theorem othersKept_iff : OthersKept s b uid appIndex (s.deleteUninstalledBundleStats b uid appIndex) ↔
    s.OthersApart b uid appIndex := by
  have hstats := fun i => statsKept_iff s b uid appIndex (s.currentStats i)
  have hrecords := recordsKept_iff s b uid appIndex
  have hevents := fun i =>
    eventsKept s b uid appIndex (s.deleteMemUsageStats b uid appIndex (s.currentStats i))
  constructor
  · intro h
    refine ⟨fun i => (hstats i).1 fun k e hother => ?_, hrecords.1 h.records, fun hb => ⟨fun i => ?_,
      ?_, ?_, ?_⟩⟩
    · have := h.stats i k e hother
      rwa [currentStats_deleteUninstalled, bundleStats_deleteMemEvent] at this
    · exact (packageRowsKept_iff s b uid appIndex i).1 (h.packageRows i) hb
    · exact (eventRowsKept_iff s b uid appIndex).1 h.eventRows hb
    · exact (moduleRowsKept_iff s b uid appIndex).1 h.moduleRows hb
    · exact (formRowsKept_iff s b uid appIndex).1 h.formRows hb
  · intro h
    refine ⟨fun i k e hother => ?_, fun i => ?_, hrecords.2 h.records, fun i => ?_, ?_, ?_, ?_⟩
    · rw [currentStats_deleteUninstalled, bundleStats_deleteMemEvent]
      exact (hstats i).2 (h.stats i) k e hother
    · rw [currentStats_deleteUninstalled, hevents i, events_deleteMemUsageStats]
    · exact (packageRowsKept_iff s b uid appIndex i).2 fun hb => (h.rows hb).packages i
    · exact (eventRowsKept_iff s b uid appIndex).2 fun hb => (h.rows hb).events
    · exact (moduleRowsKept_iff s b uid appIndex).2 fun hb => (h.rows hb).modules
    · exact (formRowsKept_iff s b uid appIndex).2 fun hb => (h.rows hb).forms

def mailboxService : ServiceState :=
  (init utc {} 100 false 1709280000000).reportModuleEvent
    { bundleName := "com.example.mailbox", moduleName := "entry", eventId := .abilityForeground
      timeStamp := 1709280001000, uid := 20010002 }

theorem moduleRecords_mailboxService :
    mailboxService.moduleRecords["com.example.mailbox 20010002 entry"]? =
        some { bundleName := "com.example.mailbox", moduleName := "entry", userId := 100
               uid := 20010002, launchedCount := 1, lastModuleUsedTime := 1709280001000 } ∧
      (mailboxService.deleteUninstalledBundleStats "com.example.mail" 20010001 0).moduleRecords[
        "com.example.mailbox 20010002 entry"]? = none := by
  decide +kernel

/-- The removal of a bundle takes the module record of a bundle whose name begins with its name. -/
theorem not_othersKept_mailboxService :
    Run utc (fun _ _ => True) mailboxService ∧
      ¬ OthersKept mailboxService "com.example.mail" 20010001 0
        (mailboxService.deleteUninstalledBundleStats "com.example.mail" 20010001 0) := by
  constructor
  · exact .step (.reportModuleEvent _) (.init {} 100 false 1709280000000 (by decide)) trivial trivial
  · intro h
    have hkept := (h.records "com.example.mailbox 20010002 entry" _ (.inl (by decide))).2
      moduleRecords_mailboxService.1
    rw [moduleRecords_mailboxService.2] at hkept
    cases hkept

end ServiceState

end DeviceUsageStats
