import DeviceUsageStats.Spec.Event

/-! Module and form records (`bundle_active_module_record.cpp`, `bundle_active_form_record.cpp`).
Two form records are equal when their form ids are. -/

namespace DeviceUsageStats

structure BundleActiveFormRecord where
  formName : String := ""
  formDimension : ℤ := 0
  formId : ℤ := 0
  formLastUsedTime : ℤ := -1
  count : ℤ := 0
  userId : ℤ := -1
  uid : ℤ := -1
  deriving DecidableEq, Repr

def BundleActiveFormRecord.updateFormRecord (r : BundleActiveFormRecord) (timeStamp : ℤ) :
    BundleActiveFormRecord :=
  if r.formLastUsedTime < timeStamp then
    { r with formLastUsedTime := timeStamp, count := r.count + 1 }
  else r

structure BundleActiveModuleRecord where
  bundleName : String := ""
  moduleName : String := ""
  launchedCount : ℤ := 0
  lastModuleUsedTime : ℤ := -1
  userId : ℤ := -1
  uid : ℤ := 0
  formRecords : List BundleActiveFormRecord := []
  deriving DecidableEq, Repr

namespace BundleActiveModuleRecord

/-- The loop updates the first record with the form id and returns. -/
def addOrUpdateOneFormRecord (r : BundleActiveModuleRecord) (formName : String)
    (formDimension formId timeStamp uid : ℤ) : BundleActiveModuleRecord :=
  let newFormRecord : BundleActiveFormRecord :=
    { formName := formName, formDimension := formDimension, formId := formId
      formLastUsedTime := timeStamp, count := 1, userId := r.userId, uid := uid }
  match r.formRecords.findIdx? fun formRecord => formRecord.formId = newFormRecord.formId with
  | some i =>
    { r with formRecords := r.formRecords.modify i (·.updateFormRecord timeStamp) }
  | none => { r with formRecords := r.formRecords ++ [newFormRecord] }

def removeOneFormRecord (r : BundleActiveModuleRecord) (formId : ℤ) : BundleActiveModuleRecord :=
  { r with formRecords := r.formRecords.eraseP fun formRecord => formRecord.formId = formId }

def updateModuleRecord (r : BundleActiveModuleRecord) (timeStamp : ℤ) : BundleActiveModuleRecord :=
  if r.lastModuleUsedTime < timeStamp then
    { r with lastModuleUsedTime := timeStamp, launchedCount := r.launchedCount + 1 }
  else r

end BundleActiveModuleRecord

/-- The key of `moduleRecords_`. -/
def combinedInfo (bundleName : String) (uid : ℤ) (moduleName : String) : String :=
  bundleName ++ " " ++ toString uid ++ " " ++ moduleName

end DeviceUsageStats
