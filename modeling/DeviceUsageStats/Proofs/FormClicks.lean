import DeviceUsageStats.Lib.Histories
import DeviceUsageStats.Spec.ModuleRecord

/-! The form records of a module over any clicks and removals. A module has one record of a form that has been
clicked since it was last removed, and the record tells the latest of these clicks and how many of them came
later than all before. -/

namespace DeviceUsageStats

namespace BundleActiveModuleRecord

/-! ### One call -/

theorem formId_updateFormRecord (form : BundleActiveFormRecord) (timeStamp : ℤ) :
    (form.updateFormRecord timeStamp).formId = form.formId := by
  unfold BundleActiveFormRecord.updateFormRecord
  split_ifs <;> rfl

/-- With one record of each form the loops visit the records as a map and a filter do. -/
theorem modify_findIdx? {forms : List BundleActiveFormRecord} (h : (forms.map (·.formId)).Nodup)
    {formId : ℤ} {i : ℕ} (hi : forms.findIdx? (fun form => form.formId = formId) = some i)
    (f : BundleActiveFormRecord → BundleActiveFormRecord) :
    forms.modify i f = forms.map fun form => if form.formId = formId then f form else form := by
  induction forms generalizing i with
  | nil => cases hi
  | cons form forms ih =>
    rw [List.map_cons, List.nodup_cons] at h
    rw [List.findIdx?_cons] at hi
    rw [List.map_cons]
    by_cases hform : form.formId = formId
    · rw [decide_eq_true hform, if_pos rfl] at hi
      cases hi
      have hrest : ∀ other ∈ forms, other.formId ≠ formId := fun other hother heq =>
        h.1 (hform.trans heq.symm ▸ List.mem_map_of_mem hother)
      rw [if_pos hform, List.modify_zero_cons, List.map_congr_left fun other hother =>
        if_neg (hrest other hother), List.map_id']
    · rw [decide_eq_false hform, if_neg Bool.false_ne_true] at hi
      obtain ⟨j, hj, rfl⟩ := Option.map_eq_some_iff.1 hi
      rw [if_neg hform, List.modify_succ_cons, ih h.2 hj]

theorem eraseP_formId {forms : List BundleActiveFormRecord} (h : (forms.map (·.formId)).Nodup)
    (formId : ℤ) :
    forms.eraseP (fun form => form.formId = formId) = forms.filter fun form => form.formId ≠ formId := by
  induction forms with
  | nil => rfl
  | cons form forms ih =>
    rw [List.map_cons, List.nodup_cons] at h
    by_cases hform : form.formId = formId
    · have hrest : ∀ other ∈ forms, decide (other.formId ≠ formId) = true := fun other hother =>
        decide_eq_true fun heq => h.1 (hform.trans heq.symm ▸ List.mem_map_of_mem hother)
      rw [List.eraseP_cons_of_pos (by simpa using hform), List.filter_cons_of_neg (by simpa using hform),
        List.filter_eq_self.2 hrest]
    · rw [List.eraseP_cons_of_neg (by simpa using hform), List.filter_cons_of_pos (by simpa using hform),
        ih h.2]

theorem formRecords_addOrUpdateOneFormRecord {r : BundleActiveModuleRecord}
    (h : (r.formRecords.map (·.formId)).Nodup) (formName : String)
    (formDimension formId timeStamp uid : ℤ) :
    (r.addOrUpdateOneFormRecord formName formDimension formId timeStamp uid).formRecords =
      if ∃ form ∈ r.formRecords, form.formId = formId then
        r.formRecords.map fun form =>
          if form.formId = formId then form.updateFormRecord timeStamp else form
      else r.formRecords ++ [{ formName := formName, formDimension := formDimension, formId := formId
                               formLastUsedTime := timeStamp, count := 1, userId := r.userId, uid := uid }] := by
  unfold addOrUpdateOneFormRecord
  simp only
  cases hfind : r.formRecords.findIdx? fun form => form.formId = formId with
  | some i =>
    have hsome : ∃ form ∈ r.formRecords, form.formId = formId := by
      have hany := congrArg Option.isSome hfind
      rw [List.findIdx?_isSome] at hany
      simpa using hany
    rw [if_pos hsome]
    exact modify_findIdx? h hfind _
  | none =>
    have hnone : ¬ ∃ form ∈ r.formRecords, form.formId = formId := by
      simpa using List.findIdx?_eq_none_iff.1 hfind
    rw [if_neg hnone]

/-! ### Any calls -/

inductive FormCall where
  | addOrUpdate (formName : String) (formDimension formId timeStamp uid : ℤ)
  | remove (formId : ℤ)

def formCall (r : BundleActiveModuleRecord) : FormCall → BundleActiveModuleRecord
  | .addOrUpdate formName formDimension formId timeStamp uid =>
    r.addOrUpdateOneFormRecord formName formDimension formId timeStamp uid
  | .remove formId => r.removeOneFormRecord formId

def FormCall.removes (formId : ℤ) : FormCall → Bool
  | .addOrUpdate .. => false
  | .remove id => decide (id = formId)

def FormCall.clickTime (formId : ℤ) : FormCall → Option ℤ
  | .addOrUpdate _ _ id timeStamp _ => if id = formId then some timeStamp else none
  | .remove _ => none

/-- The times of the clicks on a form since it was last removed. -/
def clicksSince (formId : ℤ) (calls : List FormCall) : List ℤ :=
  (Histories.sinceLast (FormCall.removes formId) calls).filterMap (FormCall.clickTime formId)

theorem clicksSince_addOrUpdate (form : ℤ) (calls : List FormCall) (formName : String)
    (formDimension formId timeStamp uid : ℤ) :
    clicksSince form (calls ++ [.addOrUpdate formName formDimension formId timeStamp uid]) =
      clicksSince form calls ++ if formId = form then [timeStamp] else [] := by
  unfold clicksSince
  rw [Histories.sinceLast_snoc, FormCall.removes, if_neg Bool.false_ne_true, List.filterMap_append]
  congr 1
  by_cases h : formId = form <;> simp [FormCall.clickTime, h]

theorem clicksSince_remove (form : ℤ) (calls : List FormCall) (formId : ℤ) :
    clicksSince form (calls ++ [.remove formId]) =
      if formId = form then [] else clicksSince form calls := by
  unfold clicksSince
  rw [Histories.sinceLast_snoc, FormCall.removes]
  by_cases h : formId = form
  · rw [decide_eq_true h, if_pos rfl, if_pos h]
    rfl
  · rw [decide_eq_false h, if_neg Bool.false_ne_true, if_neg h, List.filterMap_append]
    simp [FormCall.clickTime]

/-- The record tells the clicks: the latest, and how many were later than all before. -/
structure Tells (form : BundleActiveFormRecord) (clicks : List ℤ) : Prop where
  formLastUsedTime : IsGreatest {t | t ∈ clicks} form.formLastUsedTime
  count : form.count = Histories.exceeding clicks

theorem Tells.first {form : BundleActiveFormRecord} (hcount : form.count = 1) :
    Tells form [form.formLastUsedTime] :=
  ⟨⟨List.mem_singleton_self _, fun _ ht => (List.mem_singleton.1 ht).le⟩, hcount⟩

theorem Tells.click {form : BundleActiveFormRecord} {clicks : List ℤ} (h : Tells form clicks)
    (timeStamp : ℤ) : Tells (form.updateFormRecord timeStamp) (clicks ++ [timeStamp]) := by
  have hlater := Histories.forall_lt_iff h.formLastUsedTime timeStamp
  have hgreatest := Histories.isGreatest_snoc h.formLastUsedTime timeStamp
  unfold BundleActiveFormRecord.updateFormRecord
  by_cases hlt : form.formLastUsedTime < timeStamp
  · rw [max_eq_right hlt.le] at hgreatest
    rw [if_pos hlt]
    refine ⟨hgreatest, ?_⟩
    rw [Histories.exceeding_snoc, if_pos (hlater.2 hlt), Nat.cast_add, ← h.count]
    rfl
  · rw [max_eq_left (not_lt.1 hlt)] at hgreatest
    rw [if_neg hlt]
    refine ⟨hgreatest, ?_⟩
    rw [Histories.exceeding_snoc, if_neg fun hall => hlt (hlater.1 hall), h.count]
    rfl

structure FormsFollow (calls : List FormCall) (forms : List BundleActiveFormRecord) : Prop where
  nodup : (forms.map (·.formId)).Nodup
  present : ∀ formId, (∃ form ∈ forms, form.formId = formId) ↔ clicksSince formId calls ≠ []
  tells : ∀ form ∈ forms, Tells form (clicksSince form.formId calls)

theorem formsFollow_addOrUpdate {calls : List FormCall} {r : BundleActiveModuleRecord}
    (h : FormsFollow calls r.formRecords) (formName : String) (formDimension formId timeStamp uid : ℤ) :
    FormsFollow (calls ++ [.addOrUpdate formName formDimension formId timeStamp uid])
      (r.addOrUpdateOneFormRecord formName formDimension formId timeStamp uid).formRecords := by
  rw [formRecords_addOrUpdateOneFormRecord h.nodup]
  have hother : ∀ form, formId ≠ form → clicksSince form
      (calls ++ [.addOrUpdate formName formDimension formId timeStamp uid]) = clicksSince form calls :=
    fun form hform => by rw [clicksSince_addOrUpdate, if_neg hform, List.append_nil]
  have hown : clicksSince formId (calls ++ [.addOrUpdate formName formDimension formId timeStamp uid]) =
      clicksSince formId calls ++ [timeStamp] := by
    rw [clicksSince_addOrUpdate, if_pos rfl]
  split_ifs with hpresent
  · -- the record is there and is updated in its place
    have hid : ∀ form : BundleActiveFormRecord,
        (if form.formId = formId then form.updateFormRecord timeStamp else form).formId = form.formId :=
      fun form => by
        split_ifs
        · exact formId_updateFormRecord form timeStamp
        · rfl
    refine ⟨?_, fun id => ?_, fun form hform => ?_⟩
    · rw [List.map_map, Function.comp_def, List.map_congr_left fun form _ => hid form]
      exact h.nodup
    · have hsame : (∃ form ∈ r.formRecords.map fun form =>
            if form.formId = formId then form.updateFormRecord timeStamp else form, form.formId = id) ↔
          ∃ form ∈ r.formRecords, form.formId = id := by
        simp only [List.mem_map, exists_exists_and_eq_and, hid]
      rw [hsame]
      by_cases hne : formId = id
      · rw [← hne, hown]
        exact iff_of_true hpresent (by simp)
      · rw [hother id hne]
        exact h.present id
    · obtain ⟨old, hold, rfl⟩ := List.mem_map.1 hform
      rw [hid]
      split_ifs with hform'
      · rw [hform', hown]
        have htells := h.tells old hold
        rw [hform'] at htells
        exact htells.click timeStamp
      · rw [hother _ (Ne.symm hform')]
        exact h.tells old hold
  · -- the form was absent: a new record is appended
    have hclicks : clicksSince formId calls = [] := by
      by_contra hne
      exact hpresent ((h.present formId).2 hne)
    refine ⟨?_, fun id => ?_, fun form hform => ?_⟩
    · rw [List.map_append, List.map_singleton, List.nodup_append']
      refine ⟨h.nodup, List.nodup_singleton _, ?_⟩
      simpa using hpresent
    · simp only [List.mem_append, List.mem_singleton, or_and_right, exists_or, exists_eq_left]
      rw [h.present id]
      by_cases hne : formId = id
      · rw [← hne, hown]
        exact iff_of_true (.inr rfl) (by simp)
      · rw [hother id hne]
        exact or_iff_left hne
    · rcases List.mem_append.1 hform with hold | hnew
      · have hne : formId ≠ form.formId := fun heq => hpresent ⟨form, hold, heq.symm⟩
        rw [hother _ hne]
        exact h.tells form hold
      · rw [List.mem_singleton.1 hnew, hown, hclicks]
        exact .first rfl

theorem formsFollow_remove {calls : List FormCall} {r : BundleActiveModuleRecord}
    (h : FormsFollow calls r.formRecords) (formId : ℤ) :
    FormsFollow (calls ++ [.remove formId]) (r.removeOneFormRecord formId).formRecords := by
  change FormsFollow _ (r.formRecords.eraseP _)
  rw [eraseP_formId h.nodup]
  refine ⟨h.nodup.sublist (List.filter_sublist.map _), fun id => ?_, fun form hform => ?_⟩
  · rw [clicksSince_remove]
    split_ifs with hid
    · rw [← hid]
      refine iff_of_false ?_ fun hne => hne rfl
      rintro ⟨form, hform, heq⟩
      exact absurd heq (by simpa using (List.mem_filter.1 hform).2)
    · rw [← h.present id]
      refine exists_congr fun form => ?_
      rw [List.mem_filter, decide_eq_true_eq, and_assoc]
      refine and_congr_right fun _ => and_iff_right_of_imp fun heq => ?_
      rw [heq]
      exact Ne.symm hid
  · obtain ⟨hold, hne⟩ := List.mem_filter.1 hform
    rw [clicksSince_remove, if_neg fun heq => of_decide_eq_true hne heq.symm]
    exact h.tells form hold

theorem formsFollow_run (r : BundleActiveModuleRecord) (calls : List FormCall) :
    FormsFollow calls (calls.foldl formCall { r with formRecords := [] }).formRecords := by
  induction calls using List.reverseRecOn with
  | nil => exact ⟨.nil, fun formId => by simp [clicksSince, Histories.sinceLast], by simp⟩
  | append_singleton calls call ih =>
    rw [List.foldl_append, List.foldl_cons, List.foldl_nil]
    cases call with
    | addOrUpdate formName formDimension formId timeStamp uid =>
      exact formsFollow_addOrUpdate ih formName formDimension formId timeStamp uid
    | remove formId => exact formsFollow_remove ih formId

/-- After any clicks and removals the forms are told apart by their ids, those clicked since their last removal
are there, each with the latest click since then and the number of clicks later than all before, and a removal
takes its form only. -/
theorem formRecords_run (r : BundleActiveModuleRecord) (calls : List FormCall) :
    ((calls.foldl formCall { r with formRecords := [] }).formRecords.map (·.formId)).Nodup ∧
    (∀ formId, (∃ form ∈ (calls.foldl formCall { r with formRecords := [] }).formRecords,
      form.formId = formId) ↔ clicksSince formId calls ≠ []) ∧
    (∀ form ∈ (calls.foldl formCall { r with formRecords := [] }).formRecords,
      IsGreatest {t | t ∈ clicksSince form.formId calls} form.formLastUsedTime ∧
        form.count = Histories.exceeding (clicksSince form.formId calls)) ∧
    ∀ formId, ((calls.foldl formCall { r with formRecords := [] }).removeOneFormRecord formId).formRecords =
      (calls.foldl formCall { r with formRecords := [] }).formRecords.filter fun form =>
        form.formId ≠ formId := by
  have hfollow := formsFollow_run r calls
  refine ⟨hfollow.nodup, hfollow.present, fun form hform => ?_, eraseP_formId hfollow.nodup⟩
  exact ⟨(hfollow.tells form hform).formLastUsedTime, (hfollow.tells form hform).count⟩

end BundleActiveModuleRecord

end DeviceUsageStats
