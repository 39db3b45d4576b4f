import DeviceUsageStats.Spec.Database
import DeviceUsageStats.Spec.ModuleRecord

/-! Module and form records in the application-group database, and the removal of a bundle or a
user from every table (`bundle_active_usage_database.cpp`). -/

namespace DeviceUsageStats

abbrev ModuleRecords := Std.TreeMap String BundleActiveModuleRecord

/-- The form id column of a new row: the form id is put by `PutInt`, and then the uid under the same name. -/
def RdbStore.putFormId (store : RdbStore) (form : BundleActiveFormRecord) : ℤ :=
  match store.repeatedPut with
  | .first => form.formId.bmod (2 ^ 32)
  | .last => form.uid

namespace DatabaseState

/-- `InitUsageGroupDatabase` for the records: the last table of each kind is taken. -/
def initUsageGroupDatabase (d : DatabaseState) : DatabaseState :=
  { d with
    moduleRecordsTableName :=
      (d.moduleTables.getLast?.map Prod.fst).or d.moduleRecordsTableName
    formRecordsTableName := (d.formTables.getLast?.map Prod.fst).or d.formRecordsTableName }

def createRecordTable (d : DatabaseState) (timeStamp : ℤ) : DatabaseState :=
  let d := if d.moduleRecordsTableName = none then
      { d with
        moduleRecordsTableName := some timeStamp
        moduleTables := CreatedTables.create d.moduleTables timeStamp }
    else d
  if d.formRecordsTableName = none then
    { d with
      formRecordsTableName := some timeStamp
      formTables := CreatedTables.create d.formTables timeStamp }
  else d

def adjustLastTime (lastTime tableTime : ℤ) : ℤ := if lastTime ≠ -1 then lastTime - tableTime else -1

def moduleRecordRow (tableTime : ℤ) (r : BundleActiveModuleRecord) : ModuleRecordRow :=
  { userId := r.userId
    bundleName := r.bundleName
    moduleName := r.moduleName
    launchedCount := r.launchedCount
    lastTime := adjustLastTime r.lastModuleUsedTime tableTime
    uid := r.uid }

def sameModule (row row' : ModuleRecordRow) : Bool :=
  row.userId = row'.userId ∧ row.bundleName = row'.bundleName ∧ row.moduleName = row'.moduleName ∧
    row.uid = row'.uid

def updateModuleStep (tableTime : ℤ) (rows : List ModuleRecordRow × List ModuleRecordRow)
    (r : BundleActiveModuleRecord) : List ModuleRecordRow × List ModuleRecordRow :=
  let values := moduleRecordRow tableTime r
  if rows.1.any (sameModule · values) then
    (rows.1.map fun row => if sameModule row values then
      { row with launchedCount := values.launchedCount, lastTime := values.lastTime } else row,
      rows.2)
  else (rows.1, rows.2 ++ [values])

/-- The row that `UpdateFormData` inserts; the uid column keeps its default. -/
def formRecordRow (store : RdbStore) (tableTime : ℤ) (r : BundleActiveModuleRecord)
    (form : BundleActiveFormRecord) : FormRecordRow :=
  { userId := r.userId
    bundleName := r.bundleName
    moduleName := r.moduleName
    formName := form.formName
    formDimension := form.formDimension
    formId := store.putFormId form
    touchCount := form.count
    lastTime := adjustLastTime form.formLastUsedTime tableTime
    uid := -1 }

/-- The rows that the update of `UpdateFormData` changes: it has six conditions, and the uid bound after their
values has no placeholder. -/
def matchesForm (store : RdbStore) (r : BundleActiveModuleRecord) (form : BundleActiveFormRecord)
    (row : FormRecordRow) : Bool :=
  store.surplusValues = .ignored ∧
    row.userId = r.userId ∧ row.bundleName = r.bundleName ∧ row.moduleName = r.moduleName ∧
    row.formName = form.formName ∧ row.formDimension = form.formDimension ∧
    row.formId = form.formId

/-- `changeRow` after the update. -/
def formChangeRow (store : RdbStore) (r : BundleActiveModuleRecord) (form : BundleActiveFormRecord)
    (rows : List FormRecordRow) : ℤ :=
  match store.surplusValues with
  | .ignored => rows.countP (matchesForm store r form)
  | .refused changeRow => changeRow

def updateFormStep (store : RdbStore) (tableTime : ℤ) (rows : List FormRecordRow × List FormRecordRow)
    (record : BundleActiveModuleRecord × BundleActiveFormRecord) :
    List FormRecordRow × List FormRecordRow :=
  let (r, form) := record
  (rows.1.map fun row => if matchesForm store r form row then
      { row with
        touchCount := form.count
        lastTime := adjustLastTime form.formLastUsedTime tableTime } else row,
    if formChangeRow store r form rows.1 = 0 then rows.2 ++ [formRecordRow store tableTime r form]
    else rows.2)

def updateModuleData (d : DatabaseState) (moduleRecords : ModuleRecords) (timeStamp : ℤ) :
    DatabaseState :=
  let d := d.createRecordTable timeStamp
  match d.moduleRecordsTableName, d.formRecordsTableName with
  | some moduleTable, some formTable =>
    let records := moduleRecords.toList.map Prod.snd
    let forms := records.flatMap fun r => r.formRecords.map fun form => (r, form)
    { d with
      moduleTables := CreatedTables.modifyRows d.moduleTables moduleTable fun rows =>
        let rows := records.foldl (updateModuleStep (parseStartTime moduleTable)) (rows, [])
        rows.1 ++ rows.2
      formTables := CreatedTables.modifyRows d.formTables formTable fun rows =>
        let rows := forms.foldl (updateFormStep d.rdbStore (parseStartTime formTable)) (rows, [])
        rows.1 ++ rows.2 }
  | _, _ => d

def loadModuleData (d : DatabaseState) (userId : ℤ) (moduleRecords : ModuleRecords) :
    ModuleRecords :=
  match d.moduleRecordsTableName with
  | none => moduleRecords
  | some moduleTable =>
    ((CreatedTables.rows d.moduleTables moduleTable).filter (·.userId = userId)).foldl
      (fun m row =>
        m.insert (combinedInfo row.bundleName row.uid row.moduleName)
          { userId := row.userId
            bundleName := row.bundleName
            moduleName := row.moduleName
            launchedCount := row.launchedCount
            uid := row.uid
            lastModuleUsedTime :=
              if row.lastTime ≠ -1 then row.lastTime + parseStartTime moduleTable else -1 })
      moduleRecords

def loadFormData (d : DatabaseState) (userId : ℤ) (moduleRecords : ModuleRecords) :
    ModuleRecords :=
  match d.formRecordsTableName with
  | none => moduleRecords
  | some formTable =>
    ((CreatedTables.rows d.formTables formTable).filter (·.userId = userId)).foldl
      (fun m row =>
        m.modify (combinedInfo row.bundleName row.uid row.moduleName) fun r =>
          { r with
            formRecords := r.formRecords ++
              [{ userId := row.userId
                 formName := row.formName
                 formDimension := row.formDimension
                 formId := row.formId
                 count := row.touchCount
                 uid := row.uid
                 formLastUsedTime :=
                  if row.lastTime ≠ -1 then row.lastTime + parseStartTime formTable else -1 }] })
      moduleRecords

/-- `RemoveFormData`: the statement has a placeholder more than bound values, and a condition on an
unbound value holds of no row. -/
def removeFormData (d : DatabaseState) : DatabaseState := d

/-- The condition of `DeleteUninstalledInfo` on the user id, bundle name and uid of a row. -/
def uninstalledRow (userId : ℤ) (bundleName : String) (uid appIndex : ℤ)
    (rowUserId : ℤ) (rowBundleName : String) (rowUid : ℤ) : Bool :=
  if bundleName = "" then rowUserId = userId
  else if appIndex = 0 then rowUserId = userId ∧ rowBundleName = bundleName
  else rowUserId = userId ∧ rowBundleName = bundleName ∧ rowUid = uid

/-- `OnPackageUninstalled`: only the tables in the caches are visited. -/
def onPackageUninstalled (d : DatabaseState) (userId : ℤ) (bundleName : String)
    (uid appIndex : ℤ) : DatabaseState :=
  let gone := uninstalledRow userId bundleName uid appIndex
  { d with
    packageTables := fun i =>
      (d.sortedTableArray i).foldl (fun tables tableTime =>
        tables.modifyRows tableTime
          (·.filter fun row => !gone row.userId row.bundleName row.uid)) (d.packageTables i)
    eventTables := match d.eventTableName with
      | none => d.eventTables
      | some eventTable => d.eventTables.modifyRows eventTable
          (·.filter fun row => !gone row.userId row.bundleName row.uid)
    moduleTables := match d.moduleRecordsTableName with
      | none => d.moduleTables
      | some moduleTable => CreatedTables.modifyRows d.moduleTables moduleTable
          (·.filter fun row => !gone row.userId row.bundleName row.uid)
    formTables := match d.formRecordsTableName with
      | none => d.formTables
      | some formTable => CreatedTables.modifyRows d.formTables formTable
          (·.filter fun row => !gone row.userId row.bundleName row.uid) }

end DatabaseState

end DeviceUsageStats
