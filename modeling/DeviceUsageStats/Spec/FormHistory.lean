import DeviceUsageStats.Spec.ServiceQuery

/-! Histories of form reports, saves and reloads of one service. A form record is known by the key of its
module record and its form id, as `operator==` compares form records. -/

namespace DeviceUsageStats

/-- A reload is the one into the records in memory; a restart constructs and initialises the service of
the user anew over the same files. -/
inductive FormOp where
  | reportFormEvent (event : BundleActiveEvent)
  | restoreStats (forced : Bool)
  | loadModuleAndFormStats
  | restart (timeStamp : ℤ)

def formKey (event : BundleActiveEvent) : String × ℤ :=
  (combinedInfo event.bundleName event.uid event.moduleName, event.formId)

/-- A service with the forms whose removal was reported and that were not clicked since. -/
structure FormHistory where
  service : ServiceState
  removed : Set (String × ℤ) := ∅

namespace FormHistory

variable (tz : TimeZone)

def init (p : ProcessState) (userId : ℤ) (debug : Bool) (timeStamp : ℤ) : FormHistory :=
  { service := ServiceState.init tz p userId debug timeStamp }

def removedAfter (removed : Set (String × ℤ)) (event : BundleActiveEvent) : Set (String × ℤ) :=
  match event.eventId with
  | .formIsClicked => removed \ {formKey event}
  | .formIsRemoved => insert (formKey event) removed
  | _ => removed

def apply (h : FormHistory) : FormOp → FormHistory
  | .reportFormEvent event =>
    { service := h.service.reportFormEvent event, removed := removedAfter h.removed event }
  | .restoreStats forced => { h with service := h.service.restoreStats forced }
  | .loadModuleAndFormStats => { h with service := h.service.loadModuleAndFormStats }
  | .restart timeStamp =>
    { h with
      service := ServiceState.init tz h.service.toProcessState h.service.userId
        h.service.debugUserService timeStamp }

inductive Run (Allowed : FormHistory → FormOp → Prop) : FormHistory → Prop where
  | init (p : ProcessState) (userId : ℤ) (debug : Bool) (timeStamp : ℤ) :
    Run Allowed (init tz p userId debug timeStamp)
  | step {h : FormHistory} (op : FormOp) (run : Run Allowed h) (allowed : Allowed h op) :
    Run Allowed (h.apply tz op)

end FormHistory

def formsOf (m : ModuleRecords) (form : String × ℤ) : List BundleActiveFormRecord :=
  (m[form.1]?).elim [] (·.formRecords.filter (·.formId = form.2))

/-- A load for the user puts the row under the form. -/
def ReadsAs (userId : ℤ) (form : String × ℤ) (row : FormRecordRow) : Prop :=
  row.userId = userId ∧ combinedInfo row.bundleName row.uid row.moduleName = form.1 ∧
    row.formId = form.2

namespace ServiceState

/-- The rows that the statement of `RemoveFormData` means. -/
def removedRow (s : ServiceState) (event : BundleActiveEvent) (row : FormRecordRow) : Bool :=
  row.userId = s.userId ∧ row.bundleName = event.bundleName ∧ row.moduleName = event.moduleName ∧
    row.formName = event.formName ∧ row.formDimension = event.formDimension ∧
    row.formId = event.formId ∧ row.uid = event.uid

structure OtherFormsKept (s : ServiceState) (event : BundleActiveEvent) : Prop where
  memory : ∀ form ≠ formKey event,
    formsOf (s.reportFormEvent event).moduleRecords form = formsOf s.moduleRecords form
  table : ∀ t,
    (CreatedTables.rows (s.reportFormEvent event).files.formTables t).filter
        (fun row => !s.removedRow event row) =
      (CreatedTables.rows s.files.formTables t).filter fun row => !s.removedRow event row

end ServiceState

namespace FormHistory

structure Durable (h : FormHistory) : Prop where
  gone : ∀ form ∈ h.removed, formsOf h.service.moduleRecords form = []
  others : ∀ event : BundleActiveEvent, event.eventId = .formIsRemoved →
    h.service.OtherFormsKept event

end FormHistory

end DeviceUsageStats
