import DeviceUsageStats.Sanity.StoredRows
import DeviceUsageStats.Spec.RecordTables

/-! What a save and a load of the module and form records give back. Module records come back but for
one value of the last-used time; a form record loses its form id and its uid on the way, and with them
its module record. -/

namespace DeviceUsageStats

namespace CreatedTables

variable {Row : Type} (tables : List (ℤ × List Row)) (t x : ℤ) (f : List Row → List Row)

theorem lookup_modifyRows :
    (modifyRows tables t f).lookup x = if x = t then (tables.lookup x).map f else tables.lookup x := by
  induction tables with
  | nil => simp [modifyRows]
  | cons table tables ih =>
    unfold modifyRows at ih ⊢
    rw [List.map_cons]
    by_cases ht : table.1 = t
    · rw [if_pos ht, List.lookup_cons, ih, List.lookup_cons]
      by_cases hx : x = t
      · simp [hx, ht]
      · simp [hx, ht, beq_eq_false_iff_ne.2 hx]
    · rw [if_neg ht, List.lookup_cons, ih, List.lookup_cons]
      by_cases hx : x = table.1
      · simp [hx, ht]
      · simp [beq_eq_false_iff_ne.2 hx]

end CreatedTables

namespace DatabaseState

variable {d : DatabaseState} {records : ModuleRecords}

/-! ### Module rows -/

def moduleIdent (row : ModuleRecordRow) : ℤ × String × String × ℤ :=
  (row.userId, row.bundleName, row.moduleName, row.uid)

theorem sameModule_iff (row row' : ModuleRecordRow) :
    sameModule row row' = true ↔ moduleIdent row = moduleIdent row' := by
  simp [sameModule, moduleIdent]

theorem updateModuleStep_eq (t : ℤ) (rows : List ModuleRecordRow × List ModuleRecordRow)
    (r : BundleActiveModuleRecord) :
    updateModuleStep t rows r = Upsert.step moduleIdent rows (moduleRecordRow t r) := by
  have hany : ∀ row, sameModule row (moduleRecordRow t r) =
      decide (moduleIdent row = moduleIdent (moduleRecordRow t r)) := fun row => by
    rw [Bool.eq_iff_iff, sameModule_iff, decide_eq_true_eq]
  have hput : ∀ row : ModuleRecordRow, moduleIdent row = moduleIdent (moduleRecordRow t r) →
      { row with
        launchedCount := (moduleRecordRow t r).launchedCount
        lastTime := (moduleRecordRow t r).lastTime } = moduleRecordRow t r := by
    rintro ⟨⟩ h
    simp only [moduleIdent, moduleRecordRow, Prod.mk.injEq] at h ⊢
    obtain ⟨rfl, rfl, rfl, rfl⟩ := h
    rfl
  unfold updateModuleStep Upsert.step
  simp only [hany, decide_eq_true_eq]
  split_ifs
  · congr 1
    refine List.map_congr_left fun row _ => ?_
    split_ifs with h
    · exact hput row h
    · rfl
  · rfl

def savedModuleRows (t : ℤ) (records : ModuleRecords) (rows : List ModuleRecordRow) :
    List ModuleRecordRow :=
  let rows := (records.toList.map Prod.snd).foldl (updateModuleStep t) (rows, [])
  rows.1 ++ rows.2

def recordKey (r : BundleActiveModuleRecord) : String :=
  combinedInfo r.bundleName r.uid r.moduleName

/-- The records of a user under their keys, with forms that carry the ids of their record. -/
def OwnRecords (userId : ℤ) (records : ModuleRecords) : Prop :=
  ∀ (k : String) r, records[k]? = some r → recordKey r = k ∧ r.userId = userId ∧
    ∀ form ∈ r.formRecords, form.userId = userId ∧ form.uid = r.uid

variable {userId t : ℤ}

theorem OwnRecords.keys (own : OwnRecords userId records) :
    ((records.toList.map Prod.snd).map recordKey) = records.toList.map Prod.fst := by
  rw [List.map_map]
  refine List.map_congr_left fun entry hentry => ?_
  exact (own entry.1 entry.2 (Std.TreeMap.mem_toList_iff_getElem?_eq_some.1 hentry)).1

theorem OwnRecords.nodup (own : OwnRecords userId records) :
    ((records.toList.map Prod.snd).map recordKey).Nodup :=
  own.keys ▸ Entries.nodup_keys_toList records

theorem mem_records {r : BundleActiveModuleRecord} :
    r ∈ records.toList.map Prod.snd ↔ ∃ k : String, records[k]? = some r := by
  simp only [List.mem_map, Prod.exists, exists_eq_right,
    Std.TreeMap.mem_toList_iff_getElem?_eq_some]

theorem OwnRecords.getElem? (own : OwnRecords userId records) {r : BundleActiveModuleRecord}
    (hr : r ∈ records.toList.map Prod.snd) : records[recordKey r]? = some r := by
  obtain ⟨k, hk⟩ := mem_records.1 hr
  rwa [(own k r hk).1]

theorem OwnRecords.find? (own : OwnRecords userId records) (k : String) :
    ((records.toList.map Prod.snd).find? fun r => recordKey r = k) = records[k]? := by
  cases hk : records[k]? with
  | some r =>
    have hmem : r ∈ records.toList.map Prod.snd := mem_records.2 ⟨k, hk⟩
    rw [← (own k r hk).1]
    exact Upsert.find?_of_nodup own.nodup hmem
  | none =>
    rw [List.find?_eq_none]
    intro r hr hkey
    rw [← of_decide_eq_true hkey, own.getElem? hr] at hk
    cases hk

theorem OwnRecords.nodup_ident (own : OwnRecords userId records) (t : ℤ) :
    (((records.toList.map Prod.snd).map (moduleRecordRow t)).map moduleIdent).Nodup := by
  have h := own.nodup
  have hmap : (records.toList.map Prod.snd).map recordKey =
      (((records.toList.map Prod.snd).map (moduleRecordRow t)).map moduleIdent).map
        fun ident => combinedInfo ident.2.1 ident.2.2.2 ident.2.2.1 := by
    simp only [List.map_map]
    rfl
  rw [hmap] at h
  exact h.of_map _

theorem savedModuleRows_eq (own : OwnRecords userId records) (t : ℤ) (rows : List ModuleRecordRow) :
    savedModuleRows t records rows = Upsert.upsert moduleIdent rows
      ((records.toList.map Prod.snd).map (moduleRecordRow t)) := by
  have hfold : ∀ (l : List BundleActiveModuleRecord) rows,
      l.foldl (updateModuleStep t) rows =
        (l.map (moduleRecordRow t)).foldl (Upsert.step moduleIdent) rows := by
    intro l rows
    rw [List.foldl_map]
    congr 1
    funext rows r
    exact updateModuleStep_eq t rows r
  unfold savedModuleRows
  rw [hfold, Upsert.foldl_step (own.nodup_ident t)]
  rfl

/-- The first save writes one row for each record, the second the same rows. -/
theorem savedModuleRows_nil (own : OwnRecords userId records) (t : ℤ) :
    savedModuleRows t records [] = (records.toList.map Prod.snd).map (moduleRecordRow t) := by
  rw [savedModuleRows_eq own]
  simp [Upsert.upsert, Upsert.fresh]

theorem savedModuleRows_again (own : OwnRecords userId records) (t : ℤ) :
    savedModuleRows t records (savedModuleRows t records []) = savedModuleRows t records [] := by
  rw [savedModuleRows_nil own, savedModuleRows_eq own, Upsert.upsert_self (own.nodup_ident t)]

/-! ### Form rows -/

def savedForms (records : ModuleRecords) :
    List (BundleActiveModuleRecord × BundleActiveFormRecord) :=
  (records.toList.map Prod.snd).flatMap fun r => r.formRecords.map fun form => (r, form)

def savedFormRows (store : RdbStore) (t : ℤ) (records : ModuleRecords) (rows : List FormRecordRow) :
    List FormRecordRow :=
  let rows := (savedForms records).foldl (updateFormStep store t) (rows, [])
  rows.1 ++ rows.2

variable {store : RdbStore}

def updateFormRow (store : RdbStore) (t : ℤ) (row : FormRecordRow)
    (record : BundleActiveModuleRecord × BundleActiveFormRecord) : FormRecordRow :=
  if matchesForm store record.1 record.2 row then
    { row with
      touchCount := record.2.count, lastTime := adjustLastTime record.2.formLastUsedTime t }
  else row

theorem mem_savedForms {record : BundleActiveModuleRecord × BundleActiveFormRecord} :
    record ∈ savedForms records ↔
      (∃ k : String, records[k]? = some record.1) ∧ record.2 ∈ record.1.formRecords := by
  obtain ⟨r, form⟩ := record
  simp only [savedForms, List.mem_flatMap, mem_records]
  constructor
  · rintro ⟨r', hr', hform⟩
    obtain ⟨form', hform', heq⟩ := List.mem_map.1 hform
    cases heq
    exact ⟨hr', hform'⟩
  · rintro ⟨hr, hform⟩
    exact ⟨r, hr, List.mem_map.2 ⟨form, hform, rfl⟩⟩

theorem updateFormStep_eq (store : RdbStore) (t : ℤ) (rows inserted : List FormRecordRow)
    (record : BundleActiveModuleRecord × BundleActiveFormRecord) :
    updateFormStep store t (rows, inserted) record =
      (rows.map (updateFormRow store t · record),
        if formChangeRow store record.1 record.2 rows = 0 then
          inserted ++ [formRecordRow store t record.1 record.2]
        else inserted) := rfl

theorem formChangeRow_eq_zero_iff (hstore : store.surplusValues = .ignored)
    (r : BundleActiveModuleRecord) (form : BundleActiveFormRecord) (rows : List FormRecordRow) :
    formChangeRow store r form rows = 0 ↔ rows.any (matchesForm store r form) = false := by
  unfold formChangeRow
  rw [hstore]
  simp [List.countP_eq_zero]

/-- The forms that a save inserts into an empty table. -/
def insertedForms (store : RdbStore) (records : ModuleRecords) :
    List (BundleActiveModuleRecord × BundleActiveFormRecord) :=
  (savedForms records).filter fun record => formChangeRow store record.1 record.2 [] = 0

theorem mem_insertedForms {record : BundleActiveModuleRecord × BundleActiveFormRecord}
    (h : record ∈ insertedForms store records) :
    (∃ k : String, records[k]? = some record.1) ∧ record.2 ∈ record.1.formRecords :=
  mem_savedForms.1 (List.mem_of_mem_filter h)

theorem insertedForms_of_ignored (hstore : store.surplusValues = .ignored) (records : ModuleRecords) :
    insertedForms store records = savedForms records := by
  refine List.filter_eq_self.2 fun record _ => decide_eq_true ?_
  exact (formChangeRow_eq_zero_iff hstore record.1 record.2 []).2 rfl

theorem matchesForm_updateFormRow (r : BundleActiveModuleRecord) (form : BundleActiveFormRecord)
    (row : FormRecordRow) (record : BundleActiveModuleRecord × BundleActiveFormRecord) :
    matchesForm store r form (updateFormRow store t row record) = matchesForm store r form row := by
  unfold updateFormRow
  split_ifs <;> rfl

theorem formChangeRow_map_updateFormRow (r : BundleActiveModuleRecord) (form : BundleActiveFormRecord)
    (rows : List FormRecordRow) (record : BundleActiveModuleRecord × BundleActiveFormRecord) :
    formChangeRow store r form (rows.map (updateFormRow store t · record)) =
      formChangeRow store r form rows := by
  unfold formChangeRow
  cases store.surplusValues with
  | ignored => simp only [List.countP_map, Function.comp_def, matchesForm_updateFormRow]
  | refused => rfl

/-- A save updates the rows one by one, and inserts the forms whose update of the rows there were reports no
change. -/
theorem savedFormRows_eq (store : RdbStore) (t : ℤ) (records : ModuleRecords)
    (rows : List FormRecordRow) : savedFormRows store t records rows =
      (rows.map fun row => (savedForms records).foldl (updateFormRow store t) row) ++
        ((savedForms records).filter fun record => formChangeRow store record.1 record.2 rows = 0).map
          fun record => formRecordRow store t record.1 record.2 := by
  have hfold : ∀ (l : List (BundleActiveModuleRecord × BundleActiveFormRecord)) rows inserted,
      l.foldl (updateFormStep store t) (rows, inserted) =
        (rows.map fun row => l.foldl (updateFormRow store t) row,
          inserted ++ (l.filter fun record => formChangeRow store record.1 record.2 rows = 0).map
            fun record => formRecordRow store t record.1 record.2) := by
    intro l
    induction l with
    | nil => simp
    | cons record l ih =>
      intro rows inserted
      rw [List.foldl_cons, updateFormStep_eq, ih, List.map_map]
      simp only [formChangeRow_map_updateFormRow]
      by_cases hchange : formChangeRow store record.1 record.2 rows = 0
      · simp [hchange]
      · simp [hchange]
  unfold savedFormRows
  rw [hfold]
  rfl

theorem savedFormRows_nil (store : RdbStore) (t : ℤ) (records : ModuleRecords) :
    savedFormRows store t records [] =
      (insertedForms store records).map fun record => formRecordRow store t record.1 record.2 :=
  savedFormRows_eq store t records []

/-- A store that refuses the surplus value changes no row, and the forms are inserted again. -/
theorem savedFormRows_of_refused {changeRow : ℤ} (hstore : store.surplusValues = .refused changeRow)
    (t : ℤ) (records : ModuleRecords) (rows : List FormRecordRow) :
    savedFormRows store t records rows = rows ++ savedFormRows store t records [] := by
  have hrow : ∀ row record, updateFormRow store t row record = row := fun row record => by
    refine if_neg fun h => ?_
    have hignored := (of_decide_eq_true h).1
    rw [hstore] at hignored
    cases hignored
  have hrows : rows.map (fun row => (savedForms records).foldl (updateFormRow store t) row) = rows :=
    (List.map_congr_left fun row _ => List.foldlRecOn (motive := (· = row)) (savedForms records) _ rfl
      fun row' ih record _ => (hrow row' record).trans ih).trans (List.map_id _)
  have hchange : ∀ r form rows, formChangeRow store r form rows = changeRow := fun r form rows => by
    unfold formChangeRow
    rw [hstore]
  rw [savedFormRows_eq, savedFormRows_eq, hrows]
  simp [hchange]

/-- Two rows with the same identity are the same after any update of it. -/
theorem foldl_updateFormRow_eq (l : List (BundleActiveModuleRecord × BundleActiveFormRecord))
    {row row' : FormRecordRow}
    (hrow : { row' with touchCount := row.touchCount, lastTime := row.lastTime } = row)
    (h : ∃ record ∈ l, matchesForm store record.1 record.2 row = true) :
    l.foldl (updateFormRow store t) row = l.foldl (updateFormRow store t) row' := by
  induction l generalizing row row' with
  | nil =>
    obtain ⟨record, hmem, -⟩ := h
    cases hmem
  | cons record l ih =>
    have hmatch : ∀ r form, matchesForm store r form row' = matchesForm store r form row := fun r form => by
      rw [← hrow]
      rfl
    rw [List.foldl_cons, List.foldl_cons]
    by_cases hhead : matchesForm store record.1 record.2 row = true
    · congr 1
      unfold updateFormRow
      rw [if_pos hhead, if_pos ((hmatch _ _).trans hhead), ← hrow]
    · have hsame : updateFormRow store t row record = row := if_neg hhead
      have hsame' : updateFormRow store t row' record = row' :=
        if_neg fun h => hhead ((hmatch _ _).symm.trans h)
      rw [hsame, hsame']
      obtain ⟨record', hmem, hmatches⟩ := h
      rcases List.mem_cons.1 hmem with rfl | hmem
      · exact absurd hmatches hhead
      · exact ih hrow ⟨record', hmem, hmatches⟩

/-! ### Loads -/

def loadedTime (t lastTime : ℤ) : ℤ := if lastTime ≠ -1 then lastTime + t else -1

theorem loadedTime_adjustLastTime_iff (t lastTime : ℤ) :
    loadedTime t (adjustLastTime lastTime t) = lastTime ↔ StampKept t lastTime := by
  unfold loadedTime adjustLastTime StampKept
  split_ifs <;> omega

theorem stampKept_loadedTime (t lastTime : ℤ) :
    StampKept t (loadedTime t (adjustLastTime lastTime t)) := by
  unfold loadedTime adjustLastTime StampKept
  split_ifs <;> omega

def loadedModule (t : ℤ) (r : BundleActiveModuleRecord) : BundleActiveModuleRecord :=
  { r with
    lastModuleUsedTime := loadedTime t (adjustLastTime r.lastModuleUsedTime t), formRecords := [] }

/-- The form record that comes back. -/
def loadedForm (store : RdbStore) (t : ℤ)
    (record : BundleActiveModuleRecord × BundleActiveFormRecord) : BundleActiveFormRecord :=
  { record.2 with
    userId := record.1.userId
    formId := store.putFormId record.2
    uid := -1
    formLastUsedTime := loadedTime t (adjustLastTime record.2.formLastUsedTime t) }

/-- The key under which the forms of a record are looked up. -/
def loadedFormKey (record : BundleActiveModuleRecord × BundleActiveFormRecord) : String :=
  combinedInfo record.1.bundleName (-1) record.1.moduleName

theorem getElem?_loadModuleData (own : OwnRecords userId records) {table : ℤ}
    (name : d.moduleRecordsTableName = some table)
    (rows : CreatedTables.rows d.moduleTables table =
      (records.toList.map Prod.snd).map (moduleRecordRow (parseStartTime table))) (k : String) :
    (d.loadModuleData userId {})[k]? = (records[k]?).map (loadedModule (parseStartTime table)) := by
  have hall : (CreatedTables.rows d.moduleTables table).filter (·.userId = userId) =
      (records.toList.map Prod.snd).map (moduleRecordRow (parseStartTime table)) := by
    rw [rows, List.filter_eq_self]
    intro row hrow
    obtain ⟨r, hr, rfl⟩ := List.mem_map.1 hrow
    obtain ⟨k', hk'⟩ := mem_records.1 hr
    exact decide_eq_true (own k' r hk').2.1
  unfold loadModuleData
  rw [name]
  simp only
  rw [hall, List.foldl_map]
  refine (Entries.getElem?_foldl_insert recordKey (loadedModule (parseStartTime table)) _ own.nodup
    {} k).trans ?_
  rw [own.find? k]
  simp

theorem foldl_formRecords {α : Type} (g : α → BundleActiveFormRecord) (l : List α)
    (r : BundleActiveModuleRecord) :
    l.foldl (fun r x => { r with formRecords := r.formRecords ++ [g x] }) r =
      { r with formRecords := r.formRecords ++ l.map g } := by
  induction l generalizing r with
  | nil => simp
  | cons x l ih =>
    rw [List.foldl_cons, ih]
    simp

theorem getElem?_loadFormData (own : OwnRecords userId records) {table : ℤ}
    (name : d.formRecordsTableName = some table)
    (rows : CreatedTables.rows d.formTables table = (insertedForms store records).map
      fun record => formRecordRow store (parseStartTime table) record.1 record.2)
    (m : ModuleRecords) (k : String) :
    (d.loadFormData userId m)[k]? = (m[k]?).map fun r =>
      { r with
        formRecords := r.formRecords ++
          ((insertedForms store records).filter fun record => loadedFormKey record = k).map
            (loadedForm store (parseStartTime table)) } := by
  have hall : (CreatedTables.rows d.formTables table).filter (·.userId = userId) =
      (insertedForms store records).map
        fun record => formRecordRow store (parseStartTime table) record.1 record.2 := by
    rw [rows, List.filter_eq_self]
    intro row hrow
    obtain ⟨record, hrecord, rfl⟩ := List.mem_map.1 hrow
    obtain ⟨⟨k', hk'⟩, -⟩ := mem_insertedForms hrecord
    exact decide_eq_true (own k' record.1 hk').2.1
  unfold loadFormData
  rw [name]
  simp only
  rw [hall, List.foldl_map]
  refine (Entries.getElem?_foldl_modify loadedFormKey (fun record r =>
    { r with formRecords := r.formRecords ++ [loadedForm store (parseStartTime table) record] }) _ m
      k).trans ?_
  simp only [foldl_formRecords]

/-! ### The round trip -/

/-- The tables that a save writes to, created by it or not, are empty. -/
structure EmptyRecordTables (d : DatabaseState) (timeStamp moduleTable formTable : ℤ) : Prop where
  moduleName : (d.createRecordTable timeStamp).moduleRecordsTableName = some moduleTable
  moduleRows : (d.createRecordTable timeStamp).moduleTables.lookup moduleTable = some []
  formName : (d.createRecordTable timeStamp).formRecordsTableName = some formTable
  formRows : (d.createRecordTable timeStamp).formTables.lookup formTable = some []

/-- A load after a save gives back the records, and a second save changes no table. -/
def RecordsRoundTrip (d : DatabaseState) (records : ModuleRecords) (userId timeStamp : ℤ) : Prop :=
  let saved := d.updateModuleData records timeStamp
  (∀ k : String, (saved.loadFormData userId (saved.loadModuleData userId {}))[k]? = records[k]?) ∧
    ∀ x, (saved.updateModuleData records timeStamp).moduleTables.lookup x =
        saved.moduleTables.lookup x ∧
      (saved.updateModuleData records timeStamp).formTables.lookup x = saved.formTables.lookup x

/-- The forms whose every value survives: their record is found again only under uid -1. -/
def FormsKept (store : RdbStore) (records : ModuleRecords) (t : ℤ) : Prop :=
  ∀ (k : String) r, records[k]? = some r → ∀ form ∈ r.formRecords,
    r.uid = -1 ∧ store.putFormId form = form.formId ∧ StampKept t form.formLastUsedTime

/-- No two forms of a record share a row. -/
def FormsApart (records : ModuleRecords) : Prop :=
  ∀ (k : String) r, records[k]? = some r → ∀ form ∈ r.formRecords, ∀ form' ∈ r.formRecords,
    form'.formName = form.formName → form'.formDimension = form.formDimension →
      form'.formId = form.formId → form' = form

/-- There are forms only if the store takes the surplus value, and they are kept and apart. -/
def RecordsKept (store : RdbStore) (records : ModuleRecords) (moduleTable formTable : ℤ) : Prop :=
  (∀ (k : String) r, records[k]? = some r →
    StampKept (parseStartTime moduleTable) r.lastModuleUsedTime ∧
      (r.formRecords ≠ [] → store.surplusValues = .ignored)) ∧
    FormsKept store records (parseStartTime formTable) ∧ FormsApart records

theorem rdbStore_createRecordTable (d : DatabaseState) (timeStamp : ℤ) :
    (d.createRecordTable timeStamp).rdbStore = d.rdbStore := by
  unfold createRecordTable
  simp only
  split_ifs <;> rfl

theorem createRecordTable_of_names {moduleTable formTable : ℤ}
    (hm : d.moduleRecordsTableName = some moduleTable) (hf : d.formRecordsTableName = some formTable)
    (timeStamp : ℤ) : d.createRecordTable timeStamp = d := by
  have hm' : d.moduleRecordsTableName ≠ none := fun h => by rw [hm] at h; cases h
  have hf' : d.formRecordsTableName ≠ none := fun h => by rw [hf] at h; cases h
  unfold createRecordTable
  simp only [if_neg hm', if_neg hf']

theorem updateModuleData_eq {timeStamp moduleTable formTable : ℤ}
    (hm : (d.createRecordTable timeStamp).moduleRecordsTableName = some moduleTable)
    (hf : (d.createRecordTable timeStamp).formRecordsTableName = some formTable)
    (records : ModuleRecords) :
    d.updateModuleData records timeStamp =
      { d.createRecordTable timeStamp with
        moduleTables := CreatedTables.modifyRows (d.createRecordTable timeStamp).moduleTables
          moduleTable (savedModuleRows (parseStartTime moduleTable) records)
        formTables := CreatedTables.modifyRows (d.createRecordTable timeStamp).formTables
          formTable (savedFormRows d.rdbStore (parseStartTime formTable) records) } := by
  unfold updateModuleData
  simp only
  rw [← rdbStore_createRecordTable d timeStamp]
  set d' := d.createRecordTable timeStamp
  split
  · rename_i h₁ h₂
    rw [hm] at h₁
    rw [hf] at h₂
    cases h₁
    cases h₂
    rfl
  · rename_i h
    exact absurd hf (h _ _ hm)

theorem putFormId_loadedForm (store : RdbStore) (t : ℤ)
    {record : BundleActiveModuleRecord × BundleActiveFormRecord} (huid : record.2.uid = -1) :
    store.putFormId (loadedForm store t record) = store.putFormId record.2 := by
  unfold loadedForm RdbStore.putFormId
  cases store.repeatedPut with
  | first => exact Int.bmod_bmod
  | last => exact huid.symm

theorem loadedForms_eq_iff (own : OwnRecords userId records) (store : RdbStore) (t : ℤ) :
    (∀ (k : String) r, records[k]? = some r → r.formRecords =
        ((savedForms records).filter fun record => loadedFormKey record = k).map
          (loadedForm store t)) ↔ FormsKept store records t := by
  constructor
  · intro h
    have huid : ∀ (k : String) r, records[k]? = some r → ∀ form ∈ r.formRecords, r.uid = -1 := by
      intro k r hk form hform
      have hown := ((own k r hk).2.2 form hform).2
      rw [h k r hk] at hform
      obtain ⟨record, -, rfl⟩ := List.mem_map.1 hform
      exact hown.symm
    intro k r hk form hform
    refine ⟨huid k r hk form hform, ?_⟩
    rw [h k r hk] at hform
    obtain ⟨⟨r', form'⟩, hrecord, rfl⟩ := List.mem_map.1 hform
    obtain ⟨⟨k', hk'⟩, hform'⟩ := mem_savedForms.1 (List.mem_of_mem_filter hrecord)
    refine ⟨putFormId_loadedForm store t ?_, stampKept_loadedTime t _⟩
    exact ((own k' r' hk').2.2 form' hform').2.trans (huid k' r' hk' form' hform')
  · intro h k r hk
    have hfilter : (savedForms records).filter (fun record => loadedFormKey record = k) =
        r.formRecords.map fun form => (r, form) := by
      have hr : r ∈ records.toList.map Prod.snd := mem_records.2 ⟨k, hk⟩
      rw [← Upsert.flatMap_of_nodup own.nodup hr fun r => r.formRecords.map fun form => (r, form),
        savedForms, List.filter_flatMap]
      refine List.flatMap_congr fun r' hr' => ?_
      have hkey : ∀ form ∈ r'.formRecords, loadedFormKey (r', form) = recordKey r' := by
        intro form hform
        obtain ⟨k', hk'⟩ := mem_records.1 hr'
        rw [loadedFormKey, recordKey, (h k' r' hk' form hform).1]
      rw [(own k r hk).1]
      split_ifs with hsame
      · rw [List.filter_eq_self]
        intro record hrecord
        obtain ⟨form, hform, rfl⟩ := List.mem_map.1 hrecord
        exact decide_eq_true ((hkey form hform).trans hsame)
      · rw [List.filter_eq_nil_iff]
        intro record hrecord
        obtain ⟨form, hform, rfl⟩ := List.mem_map.1 hrecord
        exact fun heq => hsame ((hkey form hform).symm.trans (of_decide_eq_true heq))
    rw [hfilter, List.map_map]
    refine (List.map_id _).symm.trans (List.map_congr_left fun form hform => ?_)
    obtain ⟨huid, hid, hstamp⟩ := h k r hk form hform
    obtain ⟨-, huser, hown⟩ := own k r hk
    obtain ⟨hformUser, hformUid⟩ := hown form hform
    have htime := (loadedTime_adjustLastTime_iff t form.formLastUsedTime).2 hstamp
    cases form
    simp_all [loadedForm]

theorem matchesForm_own (hstore : store.surplusValues = .ignored) {t : ℤ}
    (kept : FormsKept store records t)
    {record : BundleActiveModuleRecord × BundleActiveFormRecord} (hrecord : record ∈ savedForms records) :
    matchesForm store record.1 record.2 (formRecordRow store t record.1 record.2) = true := by
  obtain ⟨⟨k, hk⟩, hform⟩ := mem_savedForms.1 hrecord
  simp [matchesForm, formRecordRow, hstore, (kept k _ hk _ hform).2.1]

/-- If a second save leaves the rows, two forms of a record that share a row are one. -/
theorem formsApart_of_again (own : OwnRecords userId records) (hstore : store.surplusValues = .ignored)
    {t : ℤ} (kept : FormsKept store records t)
    (again : ∀ record ∈ savedForms records, (savedForms records).foldl (updateFormRow store t)
      (formRecordRow store t record.1 record.2) = formRecordRow store t record.1 record.2) :
    FormsApart records := by
  intro k r hk form hform form' hform' hname hdim hformId
  have hmem : (r, form) ∈ savedForms records := mem_savedForms.2 ⟨⟨k, hk⟩, hform⟩
  have hmem' : (r, form') ∈ savedForms records := mem_savedForms.2 ⟨⟨k, hk⟩, hform'⟩
  obtain ⟨huser, huid⟩ := (own k r hk).2.2 form hform
  obtain ⟨huser', huid'⟩ := (own k r hk).2.2 form' hform'
  have hid := (kept k r hk form hform).2.1
  have hid' := (kept k r hk form' hform').2.1
  -- both rows end as the last update of their common identity left them
  have hrows : { formRecordRow store t r form' with
      touchCount := (formRecordRow store t r form).touchCount
      lastTime := (formRecordRow store t r form).lastTime } = formRecordRow store t r form := by
    simp [formRecordRow, hname, hdim, hid, hid', hformId]
  have hshared := foldl_updateFormRow_eq (t := t) (savedForms records) hrows
    ⟨_, hmem, matchesForm_own hstore kept hmem⟩
  have heq : formRecordRow store t r form = formRecordRow store t r form' :=
    (again _ hmem).symm.trans (hshared.trans (again _ hmem'))
  have htime := congrArg FormRecordRow.lastTime heq
  have hstamp := (loadedTime_adjustLastTime_iff t _).2 (kept k r hk form hform).2.2
  have hstamp' := (loadedTime_adjustLastTime_iff t _).2 (kept k r hk form' hform').2.2
  have hlast : form'.formLastUsedTime = form.formLastUsedTime := by
    rw [← hstamp, ← hstamp']
    exact congrArg (loadedTime t) htime.symm
  have hcount : form'.count = form.count := (congrArg FormRecordRow.touchCount heq).symm
  cases form
  cases form'
  simp_all

theorem updateFormRow_own (own : OwnRecords userId records) {t : ℤ} (kept : FormsKept store records t)
    (apart : FormsApart records)
    {record record' : BundleActiveModuleRecord × BundleActiveFormRecord}
    (hrecord : record ∈ savedForms records) (hrecord' : record' ∈ savedForms records) :
    updateFormRow store t (formRecordRow store t record.1 record.2) record' =
      formRecordRow store t record.1 record.2 := by
  obtain ⟨r, form⟩ := record
  obtain ⟨r', form'⟩ := record'
  obtain ⟨⟨k, hk⟩, hform⟩ := mem_savedForms.1 hrecord
  obtain ⟨⟨k', hk'⟩, hform'⟩ := mem_savedForms.1 hrecord'
  unfold updateFormRow
  split_ifs with hmatch
  · obtain ⟨-, -, hbundle, hmodule, hname, hdim, hid⟩ := of_decide_eq_true hmatch
    simp only [formRecordRow] at hbundle hmodule hname hdim hid
    have hkey : k = k' := by
      rw [← (own k r hk).1, ← (own k' r' hk').1, recordKey, recordKey, hbundle, hmodule,
        (kept k r hk form hform).1, (kept k' r' hk' form' hform').1]
    subst hkey
    obtain rfl : r' = r := Option.some.inj (hk'.symm.trans hk)
    rw [(kept k r' hk form hform).2.1] at hid
    obtain rfl := apart k r' hk form hform form' hform' hname.symm hdim.symm hid.symm
    rfl
  · rfl

/-- With such forms a second save changes no row exactly if no two forms of a record share one. -/
theorem savedFormRows_again_iff (own : OwnRecords userId records)
    (hstore : store.surplusValues = .ignored) {t : ℤ} (kept : FormsKept store records t) :
    savedFormRows store t records (savedFormRows store t records []) =
      savedFormRows store t records [] ↔ FormsApart records := by
  have hnil : savedFormRows store t records [] =
      (savedForms records).map fun record => formRecordRow store t record.1 record.2 := by
    rw [savedFormRows_nil, insertedForms_of_ignored hstore]
  have hsave : savedFormRows store t records (savedFormRows store t records []) =
      (savedFormRows store t records []).map
        fun row => (savedForms records).foldl (updateFormRow store t) row := by
    rw [hnil, savedFormRows_eq, List.filter_eq_nil_iff.2, List.map_nil, List.append_nil]
    intro record hrecord hchange
    rw [decide_eq_true_iff, formChangeRow_eq_zero_iff hstore, List.any_eq_false] at hchange
    exact hchange _ (List.mem_map.2 ⟨record, hrecord, rfl⟩) (matchesForm_own hstore kept hrecord)
  rw [hsave]
  conv_lhs => rhs; rw [← List.map_id (savedFormRows store t records [])]
  rw [List.map_inj_left, hnil]
  refine ⟨fun h => ?_, fun apart row hrow => ?_⟩
  · exact formsApart_of_again own hstore kept
      fun record hrecord => h _ (List.mem_map.2 ⟨record, hrecord, rfl⟩)
  · obtain ⟨record, hrecord, rfl⟩ := List.mem_map.1 hrow
    exact List.foldlRecOn (savedForms records) (updateFormRow store t)
      (motive := fun row => row = formRecordRow store t record.1 record.2) rfl
      fun row hrow record' hmem => hrow ▸ updateFormRow_own own kept apart hrecord hmem

theorem EmptyRecordTables.saved {timeStamp moduleTable formTable : ℤ}
    (empty : EmptyRecordTables d timeStamp moduleTable formTable) (records : ModuleRecords) :
    (d.updateModuleData records timeStamp).moduleRecordsTableName = some moduleTable ∧
      (d.updateModuleData records timeStamp).formRecordsTableName = some formTable ∧
      (d.updateModuleData records timeStamp).moduleTables.lookup moduleTable =
        some (savedModuleRows (parseStartTime moduleTable) records []) ∧
      (d.updateModuleData records timeStamp).formTables.lookup formTable =
        some (savedFormRows d.rdbStore (parseStartTime formTable) records []) ∧
      (d.updateModuleData records timeStamp).rdbStore = d.rdbStore := by
  rw [updateModuleData_eq empty.moduleName empty.formName records]
  refine ⟨empty.moduleName, empty.formName, ?_, ?_, rdbStore_createRecordTable d timeStamp⟩
  · rw [CreatedTables.lookup_modifyRows, if_pos rfl, empty.moduleRows]
    rfl
  · rw [CreatedTables.lookup_modifyRows, if_pos rfl, empty.formRows]
    rfl

theorem getElem?_load_saved (own : OwnRecords userId records) {timeStamp moduleTable formTable : ℤ}
    (empty : EmptyRecordTables d timeStamp moduleTable formTable) (k : String) :
    ((d.updateModuleData records timeStamp).loadFormData userId
      ((d.updateModuleData records timeStamp).loadModuleData userId {}))[k]? =
      (records[k]?).map fun r =>
        { loadedModule (parseStartTime moduleTable) r with
          formRecords :=
            ((insertedForms d.rdbStore records).filter fun record => loadedFormKey record = k).map
              (loadedForm d.rdbStore (parseStartTime formTable)) } := by
  obtain ⟨hmodule, hform, hmoduleTable, hformTable, -⟩ := empty.saved records
  have hmoduleRows : CreatedTables.rows (d.updateModuleData records timeStamp).moduleTables moduleTable =
      (records.toList.map Prod.snd).map (moduleRecordRow (parseStartTime moduleTable)) := by
    rw [CreatedTables.rows, hmoduleTable, Option.getD_some, savedModuleRows_nil own]
  have hformRows : CreatedTables.rows (d.updateModuleData records timeStamp).formTables formTable =
      (insertedForms d.rdbStore records).map fun record =>
        formRecordRow d.rdbStore (parseStartTime formTable) record.1 record.2 := by
    rw [CreatedTables.rows, hformTable, Option.getD_some, savedFormRows_nil]
  rw [getElem?_loadFormData own hform hformRows, getElem?_loadModuleData own hmodule hmoduleRows,
    Option.map_map]
  rfl

/-- Whether a second save changes rows is decided in the form table. -/
theorem sameRows_again_iff (own : OwnRecords userId records) {timeStamp moduleTable formTable : ℤ}
    (empty : EmptyRecordTables d timeStamp moduleTable formTable) :
    (∀ x, ((d.updateModuleData records timeStamp).updateModuleData records timeStamp).moduleTables.lookup
          x = (d.updateModuleData records timeStamp).moduleTables.lookup x ∧
      ((d.updateModuleData records timeStamp).updateModuleData records timeStamp).formTables.lookup x =
        (d.updateModuleData records timeStamp).formTables.lookup x) ↔
      savedFormRows d.rdbStore (parseStartTime formTable) records
          (savedFormRows d.rdbStore (parseStartTime formTable) records []) =
        savedFormRows d.rdbStore (parseStartTime formTable) records [] := by
  obtain ⟨hmodule, hform, hmoduleTable, hformTable, hrdb⟩ := empty.saved records
  set saved := d.updateModuleData records timeStamp
  have hnames := createRecordTable_of_names hmodule hform timeStamp
  rw [updateModuleData_eq (hnames.symm ▸ hmodule) (hnames.symm ▸ hform), hnames, hrdb]
  simp only [CreatedTables.lookup_modifyRows]
  refine ⟨fun h => ?_, fun h x => ⟨?_, ?_⟩⟩
  · have hrows := (h formTable).2
    rw [if_pos rfl, hformTable] at hrows
    exact Option.some.inj hrows
  · split_ifs with hx
    · subst hx
      rw [hmoduleTable, Option.map_some, savedModuleRows_again own]
    · rfl
  · split_ifs with hx
    · subst hx
      rw [hformTable, Option.map_some, h]
    · rfl

theorem loaded_records_iff (own : OwnRecords userId records) {timeStamp moduleTable formTable : ℤ}
    (empty : EmptyRecordTables d timeStamp moduleTable formTable) :
    (∀ k : String, ((d.updateModuleData records timeStamp).loadFormData userId
        ((d.updateModuleData records timeStamp).loadModuleData userId {}))[k]? = records[k]?) ↔
      (∀ (k : String) r, records[k]? = some r →
        StampKept (parseStartTime moduleTable) r.lastModuleUsedTime) ∧
      ∀ (k : String) r, records[k]? = some r → r.formRecords =
        ((insertedForms d.rdbStore records).filter fun record => loadedFormKey record = k).map
          (loadedForm d.rdbStore (parseStartTime formTable)) := by
  simp only [getElem?_load_saved own empty]
  refine ⟨fun h => ?_, ?_⟩
  · have hsame : ∀ (k : String) r, records[k]? = some r →
        { loadedModule (parseStartTime moduleTable) r with
          formRecords :=
            ((insertedForms d.rdbStore records).filter fun record => loadedFormKey record = k).map
              (loadedForm d.rdbStore (parseStartTime formTable)) } = r := fun k r hk => by
      have hr := h k
      rw [hk, Option.map_some] at hr
      exact Option.some.inj hr
    refine ⟨fun k r hk => ?_, fun k r hk => ?_⟩
    · exact (loadedTime_adjustLastTime_iff _ _).1
        (congrArg BundleActiveModuleRecord.lastModuleUsedTime (hsame k r hk))
    · exact (congrArg BundleActiveModuleRecord.formRecords (hsame k r hk)).symm
  · rintro ⟨hstamps, hforms⟩ k
    cases hk : records[k]? with
    | none => rfl
    | some r =>
      rw [Option.map_some, ← hforms k r hk]
      unfold loadedModule
      rw [(loadedTime_adjustLastTime_iff _ _).2 (hstamps k r hk)]

theorem formRecords_eq_nil_of_refused {changeRow : ℤ}
    (hstore : store.surplusValues = .refused changeRow) {t : ℤ}
    (again : savedFormRows store t records (savedFormRows store t records []) =
      savedFormRows store t records [])
    (hforms : ∀ (k : String) r, records[k]? = some r → r.formRecords =
      ((insertedForms store records).filter fun record => loadedFormKey record = k).map
        (loadedForm store t))
    {k : String} {r : BundleActiveModuleRecord} (hk : records[k]? = some r) : r.formRecords = [] := by
  rw [savedFormRows_of_refused hstore, List.append_left_eq_self, savedFormRows_nil,
    List.map_eq_nil_iff] at again
  rw [hforms k r hk, again]
  rfl

theorem savedForms_eq_nil (h : ∀ (k : String) r, records[k]? = some r → r.formRecords = []) :
    savedForms records = [] := by
  refine List.eq_nil_iff_forall_not_mem.2 fun record hrecord => ?_
  obtain ⟨⟨k, hk⟩, hform⟩ := mem_savedForms.1 hrecord
  rw [h k _ hk] at hform
  cases hform

/-- Module and form records survive a save and a load, and a second save changes nothing, exactly if
they are `RecordsKept`. -/
theorem recordsRoundTrip_iff (own : OwnRecords userId records) {timeStamp moduleTable formTable : ℤ}
    (empty : EmptyRecordTables d timeStamp moduleTable formTable) :
    RecordsRoundTrip d records userId timeStamp ↔
      RecordsKept d.rdbStore records moduleTable formTable := by
  change _ ∧ _ ↔ _
  rw [sameRows_again_iff own empty, loaded_records_iff own empty]
  generalize d.rdbStore = store
  cases hstore : store.surplusValues with
  | ignored =>
    rw [insertedForms_of_ignored hstore, loadedForms_eq_iff own]
    refine ⟨?_, ?_⟩
    · rintro ⟨⟨hstamps, kept⟩, hrows⟩
      exact ⟨fun k r hk => ⟨hstamps k r hk, fun _ => hstore⟩, kept,
        (savedFormRows_again_iff own hstore kept).1 hrows⟩
    · rintro ⟨hrecords, kept, apart⟩
      exact ⟨⟨fun k r hk => (hrecords k r hk).1, kept⟩,
        (savedFormRows_again_iff own hstore kept).2 apart⟩
  | refused changeRow =>
    refine ⟨?_, ?_⟩
    · rintro ⟨⟨hstamps, hforms⟩, hrows⟩
      have hnone : ∀ (k : String) r, records[k]? = some r → r.formRecords = [] := fun k r hk =>
        formRecords_eq_nil_of_refused hstore hrows hforms hk
      have hempty : ∀ {k : String} {r : BundleActiveModuleRecord} {form : BundleActiveFormRecord},
          records[k]? = some r → ¬ form ∈ r.formRecords := fun hk hform => by
        rw [hnone _ _ hk] at hform
        cases hform
      exact ⟨fun k r hk => ⟨hstamps k r hk, fun h => absurd (hnone k r hk) h⟩,
        fun k r hk form hform => absurd hform (hempty hk),
        fun k r hk form hform => absurd hform (hempty hk)⟩
    · rintro ⟨hrecords, -, -⟩
      have hnone : ∀ (k : String) r, records[k]? = some r → r.formRecords = [] := fun k r hk => by
        by_contra h
        have hignored := (hrecords k r hk).2 h
        rw [hstore] at hignored
        cases hignored
      have hsaved : insertedForms store records = [] := by
        rw [insertedForms, savedForms_eq_nil hnone]
        rfl
      refine ⟨⟨fun k r hk => (hrecords k r hk).1, fun k r hk => ?_⟩, ?_⟩
      · rw [hnone k r hk, hsaved]
        rfl
      · rw [savedFormRows_of_refused hstore, savedFormRows_nil, hsaved]
        rfl

def oneFormRecord : BundleActiveModuleRecord :=
  { bundleName := "com.example.weather", moduleName := "entry", launchedCount := 1
    lastModuleUsedTime := 1709280001000, userId := 100, uid := 20010003
    formRecords := [{ formName := "card", formDimension := 2, formId := 5, count := 1
                      formLastUsedTime := 1709280002000, userId := 100, uid := 20010003 }] }

def oneForm : ModuleRecords :=
  ({} : ModuleRecords).insert (combinedInfo "com.example.weather" 20010003 "entry") oneFormRecord

theorem eq_of_getElem?_oneForm {k : String} {r : BundleActiveModuleRecord} (hk : oneForm[k]? = some r) :
    combinedInfo "com.example.weather" 20010003 "entry" = k ∧ r = oneFormRecord := by
  unfold oneForm at hk
  rw [Std.TreeMap.getElem?_insert] at hk
  split_ifs at hk with hkey
  · exact ⟨Std.LawfulEqCmp.eq_of_compare hkey, (Option.some.inj hk).symm⟩
  · simp at hk

theorem ownRecords_oneForm : OwnRecords 100 oneForm := by
  intro k r hk
  obtain ⟨rfl, rfl⟩ := eq_of_getElem?_oneForm hk
  exact ⟨rfl, rfl, by simp [oneFormRecord]⟩

theorem emptyRecordTables_new (store : RdbStore) :
    EmptyRecordTables { rdbStore := store } 1709251200000 1709251200000 1709251200000 := by
  constructor <;> rfl

theorem recordsRoundTrip_oneForm :
    RecordsRoundTrip {} oneForm 100 1709251200000 ↔
      RecordsKept {} oneForm 1709251200000 1709251200000 :=
  recordsRoundTrip_iff ownRecords_oneForm (emptyRecordTables_new {})

/-- The form does not come back, whatever the store does. -/
theorem not_recordsRoundTrip_oneForm :
    OwnRecords 100 oneForm ∧
      (∀ store, EmptyRecordTables { rdbStore := store } 1709251200000 1709251200000 1709251200000) ∧
      ¬ ∃ store, RecordsRoundTrip { rdbStore := store } oneForm 100 1709251200000 := by
  refine ⟨ownRecords_oneForm, emptyRecordTables_new, ?_⟩
  rintro ⟨store, hload, -⟩
  rw [loaded_records_iff ownRecords_oneForm (emptyRecordTables_new store)] at hload
  have hforms := hload.2 (combinedInfo "com.example.weather" 20010003 "entry") oneFormRecord
    (by decide +kernel)
  rw [List.filter_eq_nil_iff.2] at hforms
  · cases hforms
  · -- the load looks for the record under uid -1
    intro record hrecord hkey
    obtain ⟨⟨k, hk⟩, -⟩ := mem_insertedForms hrecord
    rw [loadedFormKey, (eq_of_getElem?_oneForm hk).2] at hkey
    revert hkey
    decide +kernel

end DatabaseState

end DeviceUsageStats
