import DeviceUsageStats.Proofs.RecordRoundTrip
import DeviceUsageStats.Proofs.RenewFailures
import DeviceUsageStats.Sanity.KeyedRecords
import DeviceUsageStats.Spec.FormHistory

/-! The statement of a removal deletes no row, so a form comes back with the next load if a row reads as
it. A row that the code itself writes reads as a form with the uid -1 whose id is the uid of the saved
form; all other removals last. -/

namespace DeviceUsageStats

/-! ### What leaves the record tables alone -/

namespace DatabaseState

theorem records_foldl {α : Type} {f : DatabaseState → α → DatabaseState}
    (h : ∀ d x, (f d x).records = d.records) (l : List α) (d : DatabaseState) :
    (l.foldl f d).records = d.records :=
  List.foldlRecOn (motive := fun d' : DatabaseState => d'.records = d.records) l f rfl
    fun _ ih x _ => (h _ x).trans ih

theorem records_handleTableInfo (d : DatabaseState) (i : IntervalType) :
    (d.handleTableInfo i).records = d.records :=
  records_of_named (named_handleTableInfo d i)

theorem records_deleteExcessiveTableData (d : DatabaseState) (i : IntervalType) :
    (d.deleteExcessiveTableData i).records = d.records :=
  records_of_named (named_deleteExcessiveTableData d i)

theorem records_deleteEventRows (d : DatabaseState) (t point : ℤ) :
    (d.deleteEventRows t point).records = d.records := by
  unfold deleteEventRows
  split_ifs <;> rfl

theorem records_deleteExcessiveEventData (d : DatabaseState) :
    d.deleteExcessiveEventData.records = d.records := by
  unfold deleteExcessiveEventData
  split
  · rfl
  · split
    · rfl
    · exact records_deleteEventRows d _ _

theorem records_deleteFutureTables (t : ℤ) (d : DatabaseState) (i : IntervalType) :
    (deleteFutureTables t d i).records = d.records := by
  unfold deleteFutureTables
  simp only
  split_ifs
  · rfl
  · refine records_foldl ?_ _ d
    intro d _
    rfl

theorem records_initEventTable (d : DatabaseState) (t : ℤ) :
    (d.initEventTable t).records = d.records := by
  have hloop : ∀ l : List ℤ, (l.foldl (initEventTableStep t) d).records = d.records := by
    refine fun l => records_foldl (fun d x => ?_) l d
    unfold initEventTableStep
    split_ifs <;> rfl
  unfold initEventTable
  simp only
  split_ifs
  · rfl
  · exact hloop _
  · exact hloop _

theorem records_initDatabaseTableInfo (d : DatabaseState) (t : ℤ) :
    (d.initDatabaseTableInfo t).records = d.records := by
  unfold initDatabaseTableInfo
  simp only
  rw [records_initEventTable]
  have hfirst : ∀ d : DatabaseState, (IntervalType.all.foldl (fun d i =>
      (d.handleTableInfo i).deleteExcessiveTableData i) d).records = d.records := fun d =>
    records_foldl (fun d i => (records_deleteExcessiveTableData _ i).trans
      (records_handleTableInfo d i)) _ d
  have hevent : ∀ d : DatabaseState, d.handleEventTableInfo.records = d.records := by
    intro d
    unfold handleEventTableInfo
    split <;> rfl
  have hrest : ∀ d : DatabaseState,
      (IntervalType.all.foldl (deleteFutureTables t) d).records = d.records := fun d =>
    records_foldl (records_deleteFutureTables t) _ d
  split
  · rw [hrest, records_deleteExcessiveEventData, hevent, hfirst]
  · split_ifs
    · refine Eq.trans (b := (IntervalType.all.foldl (deleteFutureTables t) _).records) rfl ?_
      rw [hrest, records_deleteExcessiveEventData, hevent, hfirst]
    · rw [hrest, records_deleteExcessiveEventData, hevent, hfirst]

theorem records_updateBundleUsageData (d : DatabaseState) (i : IntervalType)
    (stats : BundleActivePeriodStats) : (d.updateBundleUsageData i stats).records = d.records := by
  have hadd : (d.addPackageTable i stats.beginTime).records = d.records := by
    unfold addPackageTable
    simp only
    rw [records_deleteExcessiveTableData]
    split_ifs
    · exact (records_deleteExcessiveEventData _).trans rfl
    · rfl
  unfold updateBundleUsageData
  simp only
  split_ifs
  · exact hadd
  · rfl

theorem records_updateEventData (d : DatabaseState) (stats : BundleActivePeriodStats) :
    (d.updateEventData stats).records = d.records := by
  unfold updateEventData
  split_ifs
  · rfl
  · simp only
    split
    · exact records_initEventTable d _
    · exact (records_initEventTable d stats.beginTime : _)

end DatabaseState

namespace ServiceState

variable (tz : TimeZone) {s : ServiceState}

theorem records_loadActiveStats (s : ServiceState) (t : ℤ) (force timeChanged : Bool) :
    (s.loadActiveStats tz t force timeChanged).databaseState.records = s.databaseState.records := by
  have hload : ∀ (d : DatabaseState) uids i userId,
      (d.getCurrentUsageData uids i userId).2.1.records = d.records := by
    intro d uids i userId
    unfold DatabaseState.getCurrentUsageData
    split
    · rfl
    · simp only
      split_ifs <;> rfl
  refine List.foldlRecOn (motive := fun s' : ServiceState =>
    s'.databaseState.records = s.databaseState.records) IntervalType.all
    (loadActiveStatsOf tz t force) rfl fun s' h i _ => ?_
  unfold loadActiveStatsOf
  simp only
  split_ifs
  · exact h
  · split <;> exact (hload s'.databaseState s'.packageContainUidMap i s'.userId).trans h

theorem records_restoreStatsOf (s : ServiceState) (i : IntervalType) :
    (restoreStatsOf s i).databaseState.records = s.databaseState.records := by
  have hupdate : (if (s.currentStats i).bundleStats.isEmpty then s.databaseState
      else s.databaseState.updateBundleUsageData i (s.currentStats i)).records =
        s.databaseState.records := by
    split_ifs
    · rfl
    · exact DatabaseState.records_updateBundleUsageData _ i _
  by_cases hi : i = .daily
  · refine Eq.trans ?_ ((DatabaseState.records_updateEventData _ (s.currentStats i)).trans hupdate)
    rw [restoreStatsOf, if_pos hi]
    rfl
  · refine Eq.trans ?_ hupdate
    rw [restoreStatsOf, if_neg hi]
    rfl

end ServiceState

/-! ### The rows that a load reads -/

namespace DatabaseState

variable {d : DatabaseState}

/-- The rows of the form table that the object knows. -/
def formRows (d : DatabaseState) : List FormRecordRow :=
  d.formRecordsTableName.elim [] (CreatedTables.rows d.formTables)

/-- The object knows the last form table, if there is one. -/
def KnowsForms (d : DatabaseState) : Prop :=
  d.formTables = [] ∨ d.formRecordsTableName = d.formTables.getLast?.map Prod.fst

theorem formRows_congr {d' : DatabaseState} (h : d'.records = d.records) :
    d'.formRows = d.formRows := by
  simp only [records, Prod.mk.injEq] at h
  rw [formRows, h.2.2.1, h.2.2.2.1]
  rfl

theorem knowsForms_congr {d' : DatabaseState} (h : d'.records = d.records) :
    d'.KnowsForms ↔ d.KnowsForms := by
  simp only [records, Prod.mk.injEq] at h
  rw [KnowsForms, h.2.2.1, h.2.2.2.1]
  rfl

theorem formRows_nil (h : d.formTables = []) : d.formRows = [] := by
  unfold formRows
  rw [h]
  cases d.formRecordsTableName <;> rfl

theorem getElem?_loadFormData_formRows (d : DatabaseState) (userId : ℤ) (m : ModuleRecords) :
    ∃ loaded : FormRecordRow → BundleActiveFormRecord, (∀ row, (loaded row).formId = row.formId) ∧
      ∀ k : String, (d.loadFormData userId m)[k]? = (m[k]?).map fun r =>
        { r with
          formRecords := r.formRecords ++ ((d.formRows.filter (·.userId = userId)).filter
            fun row => combinedInfo row.bundleName row.uid row.moduleName = k).map loaded } := by
  unfold formRows loadFormData
  cases d.formRecordsTableName with
  | none =>
    refine ⟨fun row => { formId := row.formId }, fun _ => rfl, fun k => ?_⟩
    simp
  | some table =>
    refine ⟨_, ?_, fun k => (Entries.getElem?_foldl_modify
      (fun row : FormRecordRow => combinedInfo row.bundleName row.uid row.moduleName) _ _ m k).trans
        (by simp only [foldl_formRecords]; rfl)⟩
    exact fun _ => rfl

theorem formsOf_loadFormData (d : DatabaseState) (userId : ℤ) (m : ModuleRecords)
    (form : String × ℤ) :
    ∃ added, formsOf (d.loadFormData userId m) form = formsOf m form ++ added ∧
      (added ≠ [] ↔ (m[form.1]?).isSome ∧ ∃ row ∈ d.formRows, ReadsAs userId form row) := by
  obtain ⟨loaded, hid, hload⟩ := getElem?_loadFormData_formRows d userId m
  unfold formsOf
  rw [hload]
  cases m[form.1]? with
  | none => exact ⟨[], rfl, by simp⟩
  | some r =>
    refine ⟨_, List.filter_append .., ?_⟩
    rw [ne_eq, List.eq_nil_iff_forall_not_mem, not_forall_not]
    simp only [List.mem_filter, List.mem_map, decide_eq_true_eq, Option.isSome_some, true_and,
      ReadsAs]
    refine ⟨?_, ?_⟩
    · rintro ⟨-, ⟨row, ⟨⟨hrow, huser⟩, hkey⟩, rfl⟩, hform⟩
      exact ⟨row, hrow, huser, hkey, (hid row).symm.trans hform⟩
    · rintro ⟨row, hrow, huser, hkey, hform⟩
      exact ⟨_, ⟨row, ⟨⟨hrow, huser⟩, hkey⟩, rfl⟩, (hid row).trans hform⟩

theorem getElem?_loadModuleData_forms (d : DatabaseState) (userId : ℤ) (m : ModuleRecords)
    (k : String) :
    ((m[k]?).isSome → ((d.loadModuleData userId m)[k]?).isSome) ∧
      ∀ r, (d.loadModuleData userId m)[k]? = some r → m[k]? = some r ∨ r.formRecords = [] := by
  unfold loadModuleData
  split
  · exact ⟨id, fun r h => .inl h⟩
  · refine List.foldlRecOn (motive := fun m' : ModuleRecords =>
      ((m[k]?).isSome → (m'[k]?).isSome) ∧ ∀ r, m'[k]? = some r → m[k]? = some r ∨
        r.formRecords = []) _ _ ⟨id, fun r h => .inl h⟩ fun m' ih row _ => ?_
    rw [Std.TreeMap.getElem?_insert]
    split
    · refine ⟨fun _ => rfl, fun r h => .inr ?_⟩
      rw [← Option.some.inj h]
    · exact ih

theorem formsOf_loadModuleData (d : DatabaseState) (userId : ℤ) (m : ModuleRecords)
    (form : String × ℤ) : formsOf (d.loadModuleData userId m) form = formsOf m form ∨
      formsOf (d.loadModuleData userId m) form = [] := by
  have hkept := (getElem?_loadModuleData_forms d userId m form.1).2
  unfold formsOf
  cases hr : (d.loadModuleData userId m)[form.1]? with
  | none => exact .inr rfl
  | some r =>
    rcases hkept r hr with h | h
    · rw [h]
      exact .inl rfl
    · refine .inr ?_
      rw [Option.elim_some, h, List.filter_nil]

end DatabaseState

namespace ServiceState

variable {s : ServiceState} {form : String × ℤ}

def Stored (s : ServiceState) (form : String × ℤ) : Prop :=
  ∃ row ∈ s.databaseState.formRows, ReadsAs s.userId form row

/-- With no such row a reload gives back the form at most as it was. -/
theorem formsOf_reload_of_not_stored (h : ¬ s.Stored form) :
    formsOf s.loadModuleAndFormStats.moduleRecords form = formsOf s.moduleRecords form ∨
      formsOf s.loadModuleAndFormStats.moduleRecords form = [] := by
  obtain ⟨added, hload, hadded⟩ := s.databaseState.formsOf_loadFormData s.userId
    (s.databaseState.loadModuleData s.userId s.moduleRecords) form
  have hnil : added = [] := by
    by_contra hne
    exact h (hadded.1 hne).2
  change formsOf (s.databaseState.loadFormData s.userId
    (s.databaseState.loadModuleData s.userId s.moduleRecords)) form = _ ∨ formsOf
      (s.databaseState.loadFormData s.userId
        (s.databaseState.loadModuleData s.userId s.moduleRecords)) form = _
  rw [hload, hnil, List.append_nil]
  exact s.databaseState.formsOf_loadModuleData s.userId s.moduleRecords form

theorem formsOf_reload_of_stored (h : s.Stored form) (hr : (s.moduleRecords[form.1]?).isSome) :
    formsOf s.loadModuleAndFormStats.moduleRecords form ≠ [] := by
  obtain ⟨added, hload, hadded⟩ := s.databaseState.formsOf_loadFormData s.userId
    (s.databaseState.loadModuleData s.userId s.moduleRecords) form
  have hne : added ≠ [] := hadded.2
    ⟨(s.databaseState.getElem?_loadModuleData_forms s.userId s.moduleRecords form.1).1 hr, h⟩
  change formsOf (s.databaseState.loadFormData s.userId
    (s.databaseState.loadModuleData s.userId s.moduleRecords)) form ≠ []
  rw [hload]
  exact List.append_ne_nil_of_right_ne_nil _ hne

/-! ### What a report does to a form -/

theorem formsOf_setModuleRecord (s : ServiceState) (event : BundleActiveEvent)
    (r : BundleActiveModuleRecord) (form : String × ℤ) :
    formsOf (s.setModuleRecord event r).moduleRecords form =
      if form.1 = (formKey event).1 then r.formRecords.filter (·.formId = form.2)
      else formsOf s.moduleRecords form := by
  unfold formsOf
  change ((s.moduleRecords.insert (formKey event).1 r)[form.1]?).elim _ _ = _
  rw [Std.TreeMap.getElem?_insert]
  simp only [Std.LawfulEqCmp.compare_eq_iff_eq, eq_comm (a := (formKey event).1)]
  split_ifs <;> rfl

theorem filter_getOrCreateModuleRecord (s : ServiceState) (event : BundleActiveEvent)
    (hform : form.1 = (formKey event).1) :
    (s.getOrCreateModuleRecord event).formRecords.filter (·.formId = form.2) =
      formsOf s.moduleRecords form := by
  unfold formsOf getOrCreateModuleRecord
  rw [hform]
  change (((s.moduleRecords[(formKey event).1]?).getD _).formRecords).filter _ = _
  cases s.moduleRecords[(formKey event).1]? <;> rfl

theorem filter_eraseP_of_ne {formId : ℤ} (hne : form.2 ≠ formId)
    (forms : List BundleActiveFormRecord) :
    (forms.eraseP fun f => f.formId = formId).filter (·.formId = form.2) =
      forms.filter (·.formId = form.2) := by
  induction forms with
  | nil => rfl
  | cons f forms ih =>
    by_cases hf : f.formId = formId
    · rw [List.eraseP_cons_of_pos (by simpa using hf), List.filter_cons_of_neg]
      rw [hf]
      simpa using hne.symm
    · rw [List.eraseP_cons_of_neg (by simpa using hf), List.filter_cons, List.filter_cons, ih]

theorem formsOf_removed (event : BundleActiveEvent) (h : event.eventId = .formIsRemoved) :
    formsOf (s.reportFormEvent event).moduleRecords form =
      if form = formKey event then (formsOf s.moduleRecords form).tail
      else formsOf s.moduleRecords form := by
  have hreport : (s.reportFormEvent event).moduleRecords = (s.setModuleRecord event
      ((s.getOrCreateModuleRecord event).removeOneFormRecord event.formId)).moduleRecords := by
    unfold reportFormEvent
    rw [h]
    rfl
  rw [hreport, formsOf_setModuleRecord]
  by_cases hkey : form.1 = (formKey event).1
  · rw [if_pos hkey, ← s.filter_getOrCreateModuleRecord event hkey]
    change ((s.getOrCreateModuleRecord event).formRecords.eraseP _).filter _ = _
    by_cases hid : form.2 = event.formId
    · rw [if_pos (Prod.ext hkey hid), hid]
      have herase := List.eraseP_filter (f := fun f : BundleActiveFormRecord => f.formId = event.formId)
        (p := fun f => f.formId = event.formId) (l := (s.getOrCreateModuleRecord event).formRecords)
      simp only [Bool.and_self] at herase
      rw [← herase]
      cases hforms : (s.getOrCreateModuleRecord event).formRecords.filter
          (·.formId = event.formId) with
      | nil => rfl
      | cons f forms =>
        have hf := (List.mem_filter.1 (hforms ▸ List.mem_cons_self ..)).2
        exact List.eraseP_cons_of_pos hf
    · rw [if_neg fun heq => hid (congrArg Prod.snd heq), filter_eraseP_of_ne hid]
  · rw [if_neg hkey, if_neg fun heq => hkey (congrArg Prod.fst heq)]

theorem formIds_modify (forms : List BundleActiveFormRecord) (i : ℕ) (t : ℤ) :
    (forms.modify i (·.updateFormRecord t)).map (·.formId) = forms.map (·.formId) := by
  have hid : ∀ f : BundleActiveFormRecord, (f.updateFormRecord t).formId = f.formId := by
    intro f
    unfold BundleActiveFormRecord.updateFormRecord
    split_ifs <;> rfl
  refine List.ext_getElem? fun j => ?_
  rw [List.getElem?_map, List.getElem?_map, List.getElem?_modify, Option.map_eq_map, Option.map_map]
  congr 1
  funext f
  rw [Function.comp_apply]
  split_ifs
  · exact hid f
  · rfl

theorem length_filter_formId (forms : List BundleActiveFormRecord) (f : ℤ) :
    (forms.filter (·.formId = f)).length = (forms.map (·.formId)).countP (· = f) := by
  rw [← List.countP_eq_length_filter, List.countP_map]
  rfl

theorem length_addOrUpdateOneFormRecord (r : BundleActiveModuleRecord) (formName : String)
    (formDimension formId t uid f : ℤ) :
    ((r.addOrUpdateOneFormRecord formName formDimension formId t uid).formRecords.filter
        (·.formId = f)).length =
      if f = formId then max 1 (r.formRecords.filter (·.formId = f)).length
      else (r.formRecords.filter (·.formId = f)).length := by
  unfold BundleActiveModuleRecord.addOrUpdateOneFormRecord
  simp only
  cases hfind : r.formRecords.findIdx? fun form => form.formId = formId with
  | some i =>
    simp only
    rw [length_filter_formId, formIds_modify, ← length_filter_formId]
    split_ifs with hf
    · have hsome : ∃ form ∈ r.formRecords, form.formId = formId := by
        by_contra hnone
        have hnone' := List.findIdx?_eq_none_iff.2 fun form hform =>
          decide_eq_false fun heq : form.formId = formId => hnone ⟨form, hform, heq⟩
        rw [hnone'] at hfind
        cases hfind
      obtain ⟨form, hform, hid⟩ := hsome
      have hpos : 0 < (r.formRecords.filter (·.formId = f)).length :=
        List.length_pos_of_mem (List.mem_filter.2 ⟨hform, decide_eq_true (hid.trans hf.symm)⟩)
      omega
    · rfl
  | none =>
    simp only
    have hnone := List.findIdx?_eq_none_iff.1 hfind
    rw [List.filter_append, List.length_append]
    split_ifs with hf
    · have hnil : r.formRecords.filter (·.formId = f) = [] := by
        rw [List.filter_eq_nil_iff, hf]
        exact fun form hform => by simpa using hnone form hform
      rw [hnil, List.filter_cons_of_pos (by simpa using hf.symm)]
      rfl
    · rw [List.filter_cons_of_neg (by simpa using Ne.symm hf)]
      rfl

theorem length_formsOf_clicked (event : BundleActiveEvent) (h : event.eventId = .formIsClicked) :
    (formsOf (s.reportFormEvent event).moduleRecords form).length =
      if form = formKey event then max 1 (formsOf s.moduleRecords form).length
      else (formsOf s.moduleRecords form).length := by
  have hreport : (s.reportFormEvent event).moduleRecords = (s.setModuleRecord event
      ((s.getOrCreateModuleRecord event).addOrUpdateOneFormRecord event.formName
        event.formDimension event.formId event.timeStamp event.uid)).moduleRecords := by
    unfold reportFormEvent
    rw [h]
    exact (keptByStats_moduleRecords _).notifyStatsChanged rfl
  rw [hreport, formsOf_setModuleRecord]
  by_cases hkey : form.1 = (formKey event).1
  · rw [if_pos hkey, length_addOrUpdateOneFormRecord, s.filter_getOrCreateModuleRecord event hkey]
    refine if_congr ⟨fun hid => Prod.ext hkey hid, fun heq => congrArg Prod.snd heq⟩ rfl rfl
  · rw [if_neg hkey, if_neg fun heq => hkey (congrArg Prod.fst heq)]

theorem formsOf_other (event : BundleActiveEvent) (hclick : event.eventId ≠ .formIsClicked)
    (hremove : event.eventId ≠ .formIsRemoved) :
    formsOf (s.reportFormEvent event).moduleRecords form = formsOf s.moduleRecords form := by
  have hreport : (s.reportFormEvent event).moduleRecords =
      (s.setModuleRecord event (s.getOrCreateModuleRecord event)).moduleRecords := by
    unfold reportFormEvent
    simp only
  rw [hreport, formsOf_setModuleRecord]
  split_ifs with hkey
  · exact s.filter_getOrCreateModuleRecord event hkey
  · rfl

/-! ### What a save writes -/

/-- The save of a form record without a row inserts one that reads as the form. -/
def Writes (s : ServiceState) (form : String × ℤ) : Prop :=
  ∃ record ∈ DatabaseState.savedForms s.moduleRecords,
    DatabaseState.formChangeRow s.databaseState.rdbStore record.1 record.2 s.databaseState.formRows = 0 ∧
      record.1.userId = s.userId ∧
      combinedInfo record.1.bundleName (-1) record.1.moduleName = form.1 ∧
      s.databaseState.rdbStore.putFormId record.2 = form.2

theorem readsAs_foldl_updateFormRow (store : RdbStore) (u t : ℤ) (row : FormRecordRow)
    (l : List (BundleActiveModuleRecord × BundleActiveFormRecord)) :
    ReadsAs u form (l.foldl (DatabaseState.updateFormRow store t) row) ↔ ReadsAs u form row := by
  refine List.foldlRecOn (motive := fun row' => ReadsAs u form row' ↔ ReadsAs u form row) l _ Iff.rfl
    fun row' ih record _ => Iff.trans ?_ ih
  unfold DatabaseState.updateFormRow
  split_ifs <;> rfl

/-- A row that reads as the form is there after a save if it was there before or was inserted for a form
record without a row. -/
theorem exists_savedFormRows (store : RdbStore) (form : String × ℤ) (u t : ℤ) (records : ModuleRecords)
    (rows : List FormRecordRow) :
    (∃ row ∈ DatabaseState.savedFormRows store t records rows, ReadsAs u form row) ↔
      (∃ row ∈ rows, ReadsAs u form row) ∨
        ∃ record ∈ DatabaseState.savedForms records,
          DatabaseState.formChangeRow store record.1 record.2 rows = 0 ∧
            ReadsAs u form (DatabaseState.formRecordRow store t record.1 record.2) := by
  rw [DatabaseState.savedFormRows_eq]
  simp only [List.mem_append, or_and_right, exists_or, List.mem_map, exists_exists_and_eq_and,
    readsAs_foldl_updateFormRow]
  simp only [List.mem_filter, decide_eq_true_eq, and_assoc]

end ServiceState

namespace DatabaseState

variable {d : DatabaseState}

theorem knowsForms_createRecordTable (h : d.KnowsForms) (t : ℤ) :
    (d.createRecordTable t).KnowsForms ∧ (d.createRecordTable t).formRows = d.formRows := by
  have hmodules : ∀ d' : DatabaseState, d'.formRecordsTableName = d.formRecordsTableName →
      d'.formTables = d.formTables → d'.KnowsForms ∧ d'.formRows = d.formRows := by
    intro d' hname htables
    rw [KnowsForms, formRows, hname, htables]
    exact ⟨h, rfl⟩
  by_cases hname : d.formRecordsTableName = none
  · have hnil : d.formTables = [] := by
      refine h.elim id fun hlast => ?_
      rw [hname, eq_comm, Option.map_eq_none_iff, List.getLast?_eq_none_iff] at hlast
      exact hlast
    have htables : (d.createRecordTable t).formTables = CreatedTables.create [] t ∧
        (d.createRecordTable t).formRecordsTableName = some t := by
      rw [← hnil]
      unfold createRecordTable
      simp only
      split_ifs <;> simp_all
    rw [KnowsForms, formRows, htables.1, htables.2, formRows, hname]
    unfold CreatedTables.create CreatedTables.rows
    split_ifs <;> simp
  · refine hmodules _ ?_ ?_ <;>
    · unfold createRecordTable
      simp only
      split_ifs <;> simp_all

theorem exists_names_createRecordTable (d : DatabaseState) (t : ℤ) :
    (∃ moduleTable, (d.createRecordTable t).moduleRecordsTableName = some moduleTable) ∧
      ∃ formTable, (d.createRecordTable t).formRecordsTableName = some formTable := by
  simp only [← Option.ne_none_iff_exists']
  unfold createRecordTable
  simp only
  split_ifs <;> simp_all

theorem formRows_updateModuleData (h : d.KnowsForms) (records : ModuleRecords) (t : ℤ) :
    (d.updateModuleData records t).KnowsForms ∧
      ((d.updateModuleData records t).formRows = [] ∧ d.formRows = [] ∨ ∃ tableTime,
        (d.updateModuleData records t).formRows =
          savedFormRows d.rdbStore tableTime records d.formRows) := by
  obtain ⟨hknows, hrows⟩ := knowsForms_createRecordTable h t
  obtain ⟨⟨moduleTable, hm⟩, formTable, hf⟩ := exists_names_createRecordTable d t
  rw [updateModuleData_eq hm hf]
  refine ⟨?_, ?_⟩
  · refine hknows.imp (fun hnil => ?_) fun hlast => ?_
    · simp only
      rw [hnil]
      rfl
    · simp only
      rw [hlast, CreatedTables.modifyRows, List.getLast?_map, Option.map_map]
      congr 1
      funext table
      simp only [Function.comp_apply]
      split_ifs <;> rfl
  · rw [← hrows, formRows, formRows]
    simp only
    rw [hf, Option.elim_some, Option.elim_some, CreatedTables.rows, CreatedTables.rows,
      CreatedTables.lookup_modifyRows, if_pos rfl]
    cases (d.createRecordTable t).formTables.lookup formTable with
    | none => exact .inl ⟨rfl, rfl⟩
    | some rows => exact .inr ⟨parseStartTime formTable, rfl⟩

end DatabaseState

namespace ServiceState

variable (tz : TimeZone) {s : ServiceState} {form : String × ℤ}

/-- After a save a row reads as the form if one did before, and else only if one was inserted for it. -/
theorem stored_restoreStats (form : String × ℤ) (h : s.databaseState.KnowsForms) (forced : Bool) :
    (s.restoreStats forced).databaseState.KnowsForms ∧
      (s.Stored form → (s.restoreStats forced).Stored form) ∧
      ((s.restoreStats forced).Stored form → s.Stored form ∨
        (s.statsChanged ∨ forced) ∧ s.Writes form) := by
  have huser := (restoreStats_user s forced).1
  by_cases hsave : s.statsChanged ∨ forced
  · set s' := IntervalType.all.foldl restoreStatsOf s with hs'
    have hrecords : s'.databaseState.records = s.databaseState.records ∧
        s'.moduleRecords = s.moduleRecords := by
      refine List.foldlRecOn (motive := fun s' : ServiceState =>
        s'.databaseState.records = s.databaseState.records ∧ s'.moduleRecords = s.moduleRecords)
        IntervalType.all _ ⟨rfl, rfl⟩ fun s' ih i _ =>
          ⟨(records_restoreStatsOf s' i).trans ih.1, ih.2⟩
    obtain ⟨hrecords, hmodules⟩ := hrecords
    have hknows := (DatabaseState.knowsForms_congr hrecords).2 h
    have hrows := DatabaseState.formRows_congr hrecords
    have hstore : s'.databaseState.rdbStore = s.databaseState.rdbStore :=
      congrArg (fun r => r.2.2.2.2) hrecords
    have hrestore : (s.restoreStats forced).databaseState = if s.moduleRecords.isEmpty
        then s'.databaseState else s'.databaseState.updateModuleData s.moduleRecords
          (s'.currentStats .daily).beginTime := by
      rw [restoreStats, if_pos hsave, ← hs', ← hmodules]
      simp only
      split_ifs <;> rfl
    unfold Stored
    rw [huser, hrestore]
    split_ifs with hempty
    · rw [hrows]
      exact ⟨hknows, id, .inl⟩
    · obtain ⟨hknows', hrows'⟩ := DatabaseState.formRows_updateModuleData hknows s.moduleRecords
        (s'.currentStats .daily).beginTime
      refine ⟨hknows', ?_⟩
      rw [hrows, hstore] at hrows'
      obtain ⟨hnil, hnil'⟩ | ⟨t, hsaved⟩ := hrows'
      · rw [hnil, hnil']
        exact ⟨id, .inl⟩
      · have hiff := exists_savedFormRows s.databaseState.rdbStore form s.userId t s.moduleRecords
          s.databaseState.formRows
        rw [hsaved]
        exact ⟨fun hold => hiff.2 (.inl hold), fun hnew => (hiff.1 hnew).imp_right (⟨hsave, ·⟩)⟩
  · rw [restoreStats, if_neg hsave]
    exact ⟨h, id, .inl⟩

theorem openDatabase_forms (p : ProcessState) (userId : ℤ) (debug : Bool) (t : ℤ) :
    (openDatabase p userId debug t).databaseState.formTables = p.files.formTables ∧
      (openDatabase p userId debug t).databaseState.formRecordsTableName =
        p.files.formTables.getLast?.map Prod.fst := by
  set d : DatabaseState :=
    { toBundleActiveUsageDatabase := { debugDatabase := debug }, toDatabaseFiles := p.files }
  have hrecords := d.records_initDatabaseTableInfo t
  simp only [DatabaseState.records, Prod.mk.injEq] at hrecords
  obtain ⟨-, -, htables, hname, -⟩ := hrecords
  refine ⟨htables, ?_⟩
  change ((d.initDatabaseTableInfo t).formTables.getLast?.map Prod.fst).or
    (d.initDatabaseTableInfo t).formRecordsTableName = _
  rw [htables, hname]
  exact Option.or_none

theorem init_frame (p : ProcessState) (userId : ℤ) (debug : Bool) (t : ℤ) :
    (init tz p userId debug t).databaseState =
        ((openDatabase p userId debug t).loadActiveStats tz t true false).databaseState ∧
      (init tz p userId debug t).userId =
        ((openDatabase p userId debug t).loadActiveStats tz t true false).userId ∧
      (init tz p userId debug t).moduleRecords =
        ((openDatabase p userId debug t).loadActiveStats tz t true
          false).loadModuleAndFormStats.moduleRecords := by
  have hframe : ∀ (s : ServiceState) (event : BundleActiveEvent),
      (s.loadModuleAndFormStats.addDailyEvent event).databaseState = s.databaseState ∧
        (s.loadModuleAndFormStats.addDailyEvent event).userId = s.userId ∧
        (s.loadModuleAndFormStats.addDailyEvent event).moduleRecords =
          s.loadModuleAndFormStats.moduleRecords := fun _ _ => ⟨rfl, rfl, rfl⟩
  exact hframe _ _

theorem records_init (p : ProcessState) (userId : ℤ) (debug : Bool) (t : ℤ) :
    (init tz p userId debug t).databaseState.records =
      (openDatabase p userId debug t).databaseState.records := by
  rw [(init_frame tz p userId debug t).1, records_loadActiveStats]

theorem knowsForms_init (p : ProcessState) (userId : ℤ) (debug : Bool) (t : ℤ) :
    (init tz p userId debug t).databaseState.KnowsForms := by
  obtain ⟨htables, hname⟩ := openDatabase_forms p userId debug t
  refine (DatabaseState.knowsForms_congr (records_init tz p userId debug t)).2 (.inr ?_)
  rw [hname, htables]

theorem userId_init (p : ProcessState) (userId : ℤ) (debug : Bool) (t : ℤ) :
    (init tz p userId debug t).userId = userId := by
  rw [(init_frame tz p userId debug t).2.1]
  exact (loadActiveStats_source tz (openDatabase p userId debug t) t true false).2.1

theorem formsOf_init_of_not_stored (p : ProcessState) (userId : ℤ) (debug : Bool) (t : ℤ)
    (h : ¬ (init tz p userId debug t).Stored form) :
    formsOf (init tz p userId debug t).moduleRecords form = [] := by
  obtain ⟨hdatabase, huser, hmodules⟩ := init_frame tz p userId debug t
  have hnone : formsOf ((openDatabase p userId debug t).loadActiveStats tz t true
      false).moduleRecords form = [] := by
    rw [moduleRecords_loadActiveStats]
    rfl
  unfold Stored at h
  rw [hdatabase, huser] at h
  have hload := formsOf_reload_of_not_stored h
  rw [hnone, or_self] at hload
  rw [hmodules]
  exact hload

theorem formRows_restart (h : s.databaseState.KnowsForms) (userId : ℤ) (debug : Bool) (t : ℤ) :
    (init tz s.toProcessState userId debug t).databaseState.formRows = s.databaseState.formRows := by
  obtain ⟨htables, hname⟩ := openDatabase_forms s.toProcessState userId debug t
  rw [DatabaseState.formRows_congr (records_init tz s.toProcessState userId debug t)]
  rcases h with hnil | hlast
  · rw [DatabaseState.formRows_nil hnil, DatabaseState.formRows_nil (htables.trans hnil)]
  · rw [DatabaseState.formRows, hname, htables, DatabaseState.formRows, hlast]
    rfl

end ServiceState

namespace FormHistory

variable {tz : TimeZone} {h : FormHistory} {form : String × ℤ}

/-- No row reads as a form at the report of its removal, and no later save inserts one. -/
def Kept (h : FormHistory) : FormOp → Prop
  | .reportFormEvent event => event.eventId = .formIsRemoved → ¬ h.service.Stored (formKey event)
  | .restoreStats forced =>
    h.service.statsChanged ∨ forced → ∀ form ∈ h.removed, ¬ h.service.Writes form
  | _ => True

/-- What the steps of a history keep: a form without a row is in memory once at most. -/
structure Inv (h : FormHistory) : Prop where
  knows : h.service.databaseState.KnowsForms
  single : ∀ form, ¬ h.service.Stored form → (formsOf h.service.moduleRecords form).length ≤ 1
  gone : ∀ form ∈ h.removed, ¬ h.service.Stored form ∧ formsOf h.service.moduleRecords form = []

theorem inv_init (p : ProcessState) (userId : ℤ) (debug : Bool) (t : ℤ) :
    Inv (init tz p userId debug t) := by
  refine ⟨ServiceState.knowsForms_init tz p userId debug t, fun form hstored => ?_, ?_⟩
  · rw [init, ServiceState.formsOf_init_of_not_stored tz p userId debug t hstored]
    exact Nat.zero_le _
  · rintro form ⟨⟩

theorem inv_reportFormEvent (hinv : Inv h) (event : BundleActiveEvent)
    (hkept : Kept h (.reportFormEvent event)) : Inv (h.apply tz (.reportFormEvent event)) := by
  have hmemory := (ServiceState.keptInMemory_memoryOnly h.service).reportFormEvent event (.refl _)
  have hstored : ∀ form, (h.service.reportFormEvent event).Stored form ↔ h.service.Stored form := by
    intro form
    unfold ServiceState.Stored
    rw [hmemory.databaseState, hmemory.userId]
  refine ⟨?_, fun form hform => ?_, fun form hform => ?_⟩
  · change (h.service.reportFormEvent event).databaseState.KnowsForms
    rw [hmemory.databaseState]
    exact hinv.knows
  · have hsingle := hinv.single form (mt (hstored form).2 hform)
    change (formsOf (h.service.reportFormEvent event).moduleRecords form).length ≤ 1
    by_cases hclick : event.eventId = .formIsClicked
    · rw [ServiceState.length_formsOf_clicked event hclick]
      split_ifs <;> omega
    · by_cases hremove : event.eventId = .formIsRemoved
      · rw [ServiceState.formsOf_removed event hremove]
        split_ifs
        · rw [List.length_tail]
          omega
        · exact hsingle
      · rw [ServiceState.formsOf_other event hclick hremove]
        exact hsingle
  · change ¬ (h.service.reportFormEvent event).Stored form ∧
      formsOf (h.service.reportFormEvent event).moduleRecords form = []
    rw [hstored]
    change form ∈ removedAfter h.removed event at hform
    by_cases hclick : event.eventId = .formIsClicked
    · rw [removedAfter, hclick] at hform
      obtain ⟨hnot, hnil⟩ := hinv.gone form hform.1
      have hne : form ≠ formKey event := hform.2
      refine ⟨hnot, ?_⟩
      rw [← List.length_eq_zero_iff, ServiceState.length_formsOf_clicked event hclick, if_neg hne,
        hnil]
      rfl
    · by_cases hremove : event.eventId = .formIsRemoved
      · rw [removedAfter, hremove] at hform
        rw [ServiceState.formsOf_removed event hremove]
        rcases hform with rfl | hform
        · have hsingle := hinv.single _ (hkept hremove)
          refine ⟨hkept hremove, ?_⟩
          rw [if_pos rfl, ← List.length_eq_zero_iff, List.length_tail]
          omega
        · obtain ⟨hnot, hnil⟩ := hinv.gone form hform
          rw [hnil]
          exact ⟨hnot, ite_self _⟩
      · have hsame : removedAfter h.removed event = h.removed := by
          unfold removedAfter
          split <;> first | contradiction | rfl
        rw [hsame] at hform
        rw [ServiceState.formsOf_other event hclick hremove]
        exact hinv.gone form hform

theorem inv_restoreStats (hinv : Inv h) (forced : Bool) (hkept : Kept h (.restoreStats forced)) :
    Inv (h.apply tz (.restoreStats forced)) := by
  have hrecords := ServiceState.moduleRecords_restoreStats h.service forced
  refine ⟨(ServiceState.stored_restoreStats ("", 0) hinv.knows forced).1,
    fun form hform => ?_, fun form hform => ?_⟩
  · change (formsOf (h.service.restoreStats forced).moduleRecords form).length ≤ 1
    rw [hrecords]
    exact hinv.single form (mt (ServiceState.stored_restoreStats form hinv.knows forced).2.1 hform)
  · change ¬ (h.service.restoreStats forced).Stored form ∧
      formsOf (h.service.restoreStats forced).moduleRecords form = []
    obtain ⟨hnot, hnil⟩ := hinv.gone form hform
    rw [hrecords]
    refine ⟨fun hstored => ?_, hnil⟩
    rcases (ServiceState.stored_restoreStats form hinv.knows forced).2.2 hstored with
      hold | ⟨hsave, hnew⟩
    · exact hnot hold
    · exact hkept hsave form hform hnew

theorem inv_loadModuleAndFormStats (hinv : Inv h) : Inv (h.apply tz .loadModuleAndFormStats) := by
  have hload : ∀ form, ¬ h.service.Stored form →
      formsOf h.service.loadModuleAndFormStats.moduleRecords form =
          formsOf h.service.moduleRecords form ∨
        formsOf h.service.loadModuleAndFormStats.moduleRecords form = [] :=
    fun form => ServiceState.formsOf_reload_of_not_stored
  refine ⟨hinv.knows, fun form hform => ?_, fun form hform => ?_⟩
  · have hsingle := hinv.single form hform
    rcases hload form hform with hsame | hnil
    · exact hsame ▸ hsingle
    · exact hnil ▸ Nat.zero_le _
  · obtain ⟨hnot, hnil⟩ := hinv.gone form hform
    exact ⟨hnot, (hload form hnot).elim (·.trans hnil) id⟩

theorem inv_restart (hinv : Inv h) (t : ℤ) : Inv (h.apply tz (.restart t)) := by
  have hstored : ∀ form, (ServiceState.init tz h.service.toProcessState h.service.userId
      h.service.debugUserService t).Stored form ↔ h.service.Stored form := by
    intro form
    unfold ServiceState.Stored
    rw [ServiceState.formRows_restart tz hinv.knows, ServiceState.userId_init]
  refine ⟨ServiceState.knowsForms_init tz _ _ _ t, fun form hform => ?_, fun form hform => ?_⟩
  · change (formsOf (ServiceState.init tz _ _ _ t).moduleRecords form).length ≤ 1
    rw [ServiceState.formsOf_init_of_not_stored tz _ _ _ t hform]
    exact Nat.zero_le _
  · have hnot := mt (hstored form).1 (hinv.gone form hform).1
    exact ⟨hnot, ServiceState.formsOf_init_of_not_stored tz _ _ _ t hnot⟩

theorem inv_run (hrun : Run tz Kept h) : Inv h := by
  induction hrun with
  | init p userId debug t => exact inv_init p userId debug t
  | step op _ allowed ih =>
    cases op with
    | reportFormEvent event => exact inv_reportFormEvent ih event allowed
    | restoreStats forced => exact inv_restoreStats ih forced allowed
    | loadModuleAndFormStats => exact inv_loadModuleAndFormStats ih
    | restart t => exact inv_restart ih t

theorem otherFormsKept (s : ServiceState) (event : BundleActiveEvent)
    (h : event.eventId = .formIsRemoved) : s.OtherFormsKept event := by
  refine ⟨fun form hne => ?_, fun t => ?_⟩
  · rw [ServiceState.formsOf_removed event h, if_neg hne]
  · have hfiles : (s.reportFormEvent event).files = s.files :=
      ((ServiceState.keptInMemory_memoryOnly s).reportFormEvent event (.refl s)).files
    rw [hfiles]

/-- If every step of a history meets the condition, no form whose removal was reported is in memory
before it is clicked again, whatever is saved and loaded, and a removal concerns no other form. -/
theorem durable_run (hrun : Run tz Kept h) : Durable h where
  gone form hform := ((inv_run hrun).gone form hform).2
  others event hevent := otherFormsKept h.service event hevent

def cardEvent (eventId : EventId) (formId uid : ℤ) : BundleActiveEvent :=
  { bundleName := "com.example.mail", moduleName := "entry", formName := "card", formDimension := 2
    formId := formId, eventId := eventId, timeStamp := 1709280001000, uid := uid }

def savedCard (formId uid : ℤ) : FormHistory :=
  ((init utc {} 100 false 1709280000000).apply utc
    (.reportFormEvent (cardEvent .formIsClicked formId uid))).apply utc (.restoreStats true)

theorem durable_run_card :
    Durable (((savedCard 5 20010001).apply utc
      (.reportFormEvent (cardEvent .formIsRemoved 5 20010001))).apply utc .loadModuleAndFormStats) := by
  have hrows : ∀ row ∈ (savedCard 5 20010001).service.databaseState.formRows, row.formId ≠ 5 := by
    decide +kernel
  have hsaved : Run utc Kept (savedCard 5 20010001) := by
    refine .step _ (.step _ (.init {} 100 false 1709280000000) ?_) ?_
    · rintro ⟨⟩
    · rintro - form ⟨hform, -⟩
      cases hform
  refine durable_run (.step _ (.step _ hsaved fun _ => ?_) trivial)
  rintro ⟨row, hrow, -, -, hid⟩
  exact hrows row hrow hid

/-- Once a row reads as a removed form, the next reload brings the form back into its module record. -/
theorem not_durable_reload (hform : form ∈ h.removed) (hstored : h.service.Stored form)
    (hrecord : (h.service.moduleRecords[form.1]?).isSome) :
    ¬ Durable (h.apply tz .loadModuleAndFormStats) := fun hdurable =>
  ServiceState.formsOf_reload_of_stored hstored hrecord (hdurable.gone form hform)

/-- The removal of a form with the default uid whose id is that uid: its row reads as the form. -/
theorem removed_card_returns :
    let h := ((savedCard (-1) (-1)).apply utc
      (.reportFormEvent (cardEvent .formIsRemoved (-1) (-1)))).apply utc .loadModuleAndFormStats
    Run utc (fun _ _ => True) h ∧
      formKey (cardEvent .formIsRemoved (-1) (-1)) ∈ h.removed ∧
      formsOf h.service.moduleRecords (formKey (cardEvent .formIsRemoved (-1) (-1))) ≠ [] := by
  refine ⟨.step _ (.step _ (.step _ (.step _ (.init {} 100 false 1709280000000) trivial) trivial)
    trivial) trivial, Set.mem_insert _ _, ?_⟩
  decide +kernel

end FormHistory

end DeviceUsageStats
