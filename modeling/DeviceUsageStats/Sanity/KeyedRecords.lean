import DeviceUsageStats.Sanity.Keyed

/-! The module records of a service stand under their own combined names, in every state of a run. Only
module and form reports, loads and removals touch them. -/

namespace DeviceUsageStats

/-- Each record stands under its own combined name. -/
def KeyedRecords (m : ModuleRecords) : Prop :=
  ∀ k r, m[k]? = some r → combinedInfo r.bundleName r.uid r.moduleName = k

namespace KeyedRecords

variable {m : ModuleRecords}

theorem empty : KeyedRecords {} := fun k r h => by simp at h

theorem insert (hm : KeyedRecords m) {k : String} {r : BundleActiveModuleRecord}
    (hr : combinedInfo r.bundleName r.uid r.moduleName = k) : KeyedRecords (m.insert k r) := by
  intro k' r' h
  rw [Std.TreeMap.getElem?_insert] at h
  split_ifs at h with hk
  · rw [← Option.some.inj h, hr]
    exact Std.LawfulEqCmp.eq_of_compare hk
  · exact hm k' r' h

theorem modify (hm : KeyedRecords m) (k : String)
    {f : BundleActiveModuleRecord → BundleActiveModuleRecord}
    (hf : ∀ r, combinedInfo (f r).bundleName (f r).uid (f r).moduleName =
      combinedInfo r.bundleName r.uid r.moduleName) : KeyedRecords (m.modify k f) := by
  intro k' r' h
  rw [Std.TreeMap.getElem?_modify] at h
  split_ifs at h with hk
  · obtain ⟨r, hr, rfl⟩ := Option.map_eq_some_iff.1 h
    rw [hf, hm k r hr]
    exact Std.LawfulEqCmp.eq_of_compare hk
  · exact hm k' r' h

theorem eraseEntries (hm : KeyedRecords m) (p : String → BundleActiveModuleRecord → Bool) :
    KeyedRecords (Entries.eraseEntries p m) := by
  intro k r h
  rw [Entries.getElem?_eraseEntries] at h
  exact hm k r (Option.filter_eq_some_iff.1 h).1

theorem loadModuleData (hm : KeyedRecords m) (d : DatabaseState) (u : ℤ) :
    KeyedRecords (d.loadModuleData u m) := by
  unfold DatabaseState.loadModuleData
  split
  · exact hm
  · exact List.foldlRecOn _ _ hm fun m hm row _ => hm.insert rfl

theorem loadFormData (hm : KeyedRecords m) (d : DatabaseState) (u : ℤ) :
    KeyedRecords (d.loadFormData u m) := by
  unfold DatabaseState.loadFormData
  split
  · exact hm
  · exact List.foldlRecOn _ _ hm fun m hm row _ => hm.modify _ fun _ => rfl

end KeyedRecords

namespace ServiceState

variable (tz : TimeZone) {s : ServiceState}

/-- Steps on the statistics leave the module records alone. -/
theorem keptByStats_moduleRecords (m : ModuleRecords) :
    KeptByStats fun s => s.moduleRecords = m where
  updateStats _ _ _ _ _ _ _ h := h
  incrementLaunch _ _ h := h
  frame _ _ h _ _ _ _ := h
  notifyStatsChanged {s} h := by
    unfold notifyStatsChanged
    split_ifs <;> exact h
  lastForeground _ h := h

theorem moduleRecords_restoreStats (s : ServiceState) (forced : Bool) :
    (s.restoreStats forced).moduleRecords = s.moduleRecords := by
  have hloop : (IntervalType.all.foldl restoreStatsOf s).moduleRecords = s.moduleRecords :=
    List.foldlRecOn (motive := fun s' : ServiceState => s'.moduleRecords = s.moduleRecords)
      IntervalType.all _ rfl fun _ h _ _ => h
  unfold restoreStats
  simp only
  split_ifs <;> exact hloop

theorem moduleRecords_loadActiveStats (s : ServiceState) (t : ℤ) (force timeChanged : Bool) :
    (s.loadActiveStats tz t force timeChanged).moduleRecords = s.moduleRecords := by
  refine List.foldlRecOn (motive := fun s' : ServiceState => s'.moduleRecords = s.moduleRecords)
    IntervalType.all (loadActiveStatsOf tz t force) rfl fun s' h i _ => ?_
  unfold loadActiveStatsOf
  simp only
  split_ifs
  · exact h
  · split <;> exact h

theorem moduleRecords_saveAndReload (s : ServiceState) (t : ℤ) :
    (s.saveAndReload tz t).moduleRecords = s.moduleRecords :=
  (moduleRecords_loadActiveStats tz _ t false false).trans (moduleRecords_restoreStats s true)

theorem moduleRecords_renewIfExpired (s : ServiceState) (t : ℤ) :
    (s.renewIfExpired tz t).moduleRecords = s.moduleRecords :=
  (keptByStats_moduleRecords s.moduleRecords).renewIfExpired tz
    (fun s' forced h => (moduleRecords_restoreStats s' forced).trans h)
    (fun s' h => (moduleRecords_saveAndReload tz s' t).trans h) rfl

theorem moduleRecords_reportEvent (s : ServiceState) (event : BundleActiveEvent) :
    (s.reportEvent tz event).moduleRecords = s.moduleRecords :=
  (keptByStats_moduleRecords s.moduleRecords).reportEvent tz event
    (moduleRecords_renewIfExpired tz s event.timeStamp)

theorem moduleRecords_reportForShutdown (s : ServiceState) (event : BundleActiveEvent) :
    (s.reportForShutdown tz event).moduleRecords = s.moduleRecords :=
  (keptByStats_moduleRecords s.moduleRecords).reportForShutdown tz
    (fun s' forced h => (moduleRecords_restoreStats s' forced).trans h) event
    (fun s' h => (moduleRecords_saveAndReload tz s' event.timeStamp).trans h) rfl

theorem moduleRecords_queryBundleStatsInfos (s : ServiceState) (k b e userId : ℤ) (n : String) :
    (s.queryBundleStatsInfos k b e userId n).2.moduleRecords = s.moduleRecords := by
  unfold queryBundleStatsInfos
  split
  · rfl
  · simp only
    split_ifs <;> rfl

/-- A record that a report finds or creates is that of the event's names. -/
theorem combinedInfo_getOrCreateModuleRecord (h : KeyedRecords s.moduleRecords)
    (event : BundleActiveEvent) :
    combinedInfo (s.getOrCreateModuleRecord event).bundleName
        (s.getOrCreateModuleRecord event).uid (s.getOrCreateModuleRecord event).moduleName =
      combinedInfo event.bundleName event.uid event.moduleName := by
  unfold getOrCreateModuleRecord
  cases hr : s.moduleRecords[combinedInfo event.bundleName event.uid event.moduleName]? with
  | none => rfl
  | some r => exact h _ r hr

theorem keyedRecords_reportModuleEvent (h : KeyedRecords s.moduleRecords)
    (event : BundleActiveEvent) : KeyedRecords (s.reportModuleEvent event).moduleRecords := by
  have hname := combinedInfo_getOrCreateModuleRecord h event
  unfold reportModuleEvent
  split_ifs
  · exact h
  · rw [(keptByStats_moduleRecords _).notifyStatsChanged rfl]
    refine h.insert (.trans ?_ hname)
    unfold BundleActiveModuleRecord.updateModuleRecord
    split_ifs <;> rfl

theorem keyedRecords_reportFormEvent (h : KeyedRecords s.moduleRecords)
    (event : BundleActiveEvent) : KeyedRecords (s.reportFormEvent event).moduleRecords := by
  have hname := combinedInfo_getOrCreateModuleRecord h event
  unfold reportFormEvent
  simp only
  split
  · rw [(keptByStats_moduleRecords _).notifyStatsChanged rfl]
    refine h.insert (.trans ?_ hname)
    unfold BundleActiveModuleRecord.addOrUpdateOneFormRecord
    simp only
    split <;> rfl
  · exact h.insert hname
  · exact h.insert hname

theorem keyedRecords_loadModuleAndFormStats (h : KeyedRecords s.moduleRecords) :
    KeyedRecords s.loadModuleAndFormStats.moduleRecords :=
  (h.loadModuleData s.databaseState s.userId).loadFormData s.databaseState s.userId

theorem keyedRecords_apply (h : KeyedRecords s.moduleRecords) (op : ServiceOp) :
    KeyedRecords (s.apply tz op).moduleRecords := by
  cases op with
  | reportEvent event =>
    rw [apply, moduleRecords_reportEvent]
    exact h
  | reportForShutdown event =>
    rw [apply, moduleRecords_reportForShutdown]
    exact h
  | reportModuleEvent event => exact keyedRecords_reportModuleEvent h event
  | reportFormEvent event => exact keyedRecords_reportFormEvent h event
  | restoreStats forced =>
    rw [apply, moduleRecords_restoreStats]
    exact h
  | handleTimeChange t t' =>
    refine keyedRecords_loadModuleAndFormStats ?_
    rw [moduleRecords_loadActiveStats]
    change KeyedRecords ((s.reportEvent tz _).restoreStats true).moduleRecords
    rw [moduleRecords_restoreStats, moduleRecords_reportEvent]
    exact h
  | deleteUninstalledBundleStats b uid appIndex => exact h.eraseEntries _
  | deleteExcessiveEventTableData days =>
    change KeyedRecords (s.deleteExcessiveEventTableData days).moduleRecords
    unfold deleteExcessiveEventTableData
    split_ifs <;> exact h
  | queryBundleStatsInfos k b e userId n =>
    rw [apply, moduleRecords_queryBundleStatsInfos]
    exact h
  | otherServices p => exact h

theorem keyedRecords_run {Allowed : ServiceState → ServiceOp → Prop} (run : Run tz Allowed s) :
    KeyedRecords s.moduleRecords := by
  induction run with
  | init p userId debug t _ =>
    unfold init
    refine keyedRecords_loadModuleAndFormStats ?_
    rw [moduleRecords_loadActiveStats]
    exact .empty
  | step op _ _ _ ih => exact keyedRecords_apply tz ih op

end ServiceState
end DeviceUsageStats
