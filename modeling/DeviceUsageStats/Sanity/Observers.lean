import DeviceUsageStats.Proofs.ObserverRegistry

/-! What a call on the registry of observers does to the observers: it is refused and changes nothing, or it
changes the observer of its own token. -/

namespace DeviceUsageStats
namespace ObserverRegistry

variable {registry : ObserverRegistry} {t : ℕ} {observer : Option IAppGroupCallback}
  {o : IAppGroupCallback}

theorem register_refused (h : (registry.registerAppGroupCallBack t observer).1 ≠ .errOk) :
    (registry.registerAppGroupCallBack t observer).2 = registry := by
  unfold registerAppGroupCallBack at h ⊢
  cases observer with
  | none => rfl
  | some observer =>
    by_cases hcontains : registry.groupChangeObservers.contains t = true
    · simp [hcontains]
    · simp [hcontains] at h

theorem unRegister_refused (h : (registry.unRegisterAppGroupCallBack t).1 ≠ .errOk) :
    (registry.unRegisterAppGroupCallBack t).2 = registry := by
  unfold unRegisterAppGroupCallBack at h ⊢
  cases hobserver : registry.groupChangeObservers[t]? with
  | none => rfl
  | some observer => simp [hobserver] at h

/-- An observer is taken for a token that has none. -/
theorem register_taken (h : (registry.registerAppGroupCallBack t observer).1 = .errOk) :
    ∃ o, observer = some o ∧ registry.groupChangeObservers[t]? = none ∧
      (registry.registerAppGroupCallBack t observer).2.groupChangeObservers =
        registry.groupChangeObservers.insert t o := by
  unfold registerAppGroupCallBack at h ⊢
  cases observer with
  | none => cases h
  | some o =>
    by_cases hcontains : registry.groupChangeObservers.contains t = true
    · simp [hcontains] at h
    · refine ⟨o, rfl, by simpa using hcontains, ?_⟩
      simp only [hcontains, if_false, Bool.false_eq_true]
      exact (addObserverDeathRecipient_spec _ o).1

theorem unRegister_taken (h : (registry.unRegisterAppGroupCallBack t).1 = .errOk) :
    (registry.unRegisterAppGroupCallBack t).2.groupChangeObservers =
      registry.groupChangeObservers.erase t := by
  unfold unRegisterAppGroupCallBack at h ⊢
  cases hobserver : registry.groupChangeObservers[t]? with
  | none => simp [hobserver] at h
  | some observer => simp only [(removeObserverDeathRecipient_spec registry observer).1]

/-- The operations that take out the observer of a token: its own call, and the death of its object. -/
def Leaves (t : ℕ) (o : IAppGroupCallback) : ObserverOp → Prop
  | .unRegister token => token = t
  | .died remote _ => remote.isSome ∧ o.asObject = remote
  | .register _ _ => False

/-- An observer stays under its token until an operation takes it out. -/
theorem observer_apply (h : registry.groupChangeObservers[t]? = some o) (op : ObserverOp)
    (hop : ¬ Leaves t o op) : (registry.apply op).groupChangeObservers[t]? = some o := by
  cases op with
  | register token observer =>
    simp only [apply]
    by_cases hok : (registry.registerAppGroupCallBack token observer).1 = .errOk
    · obtain ⟨o', rfl, hnone, hinsert⟩ := register_taken hok
      have hne : token ≠ t := by
        rintro rfl
        rw [h] at hnone
        cases hnone
      rw [hinsert, Std.TreeMap.getElem?_insert, if_neg (by simpa using hne), h]
    · rw [register_refused hok, h]
  | unRegister token =>
    simp only [apply]
    by_cases hok : (registry.unRegisterAppGroupCallBack token).1 = .errOk
    · have hne : token ≠ t := hop
      rw [unRegister_taken hok, Std.TreeMap.getElem?_erase, if_neg (by simpa using hne), h]
    · rw [unRegister_refused hok, h]
  | died remote handlerInited =>
    cases remote with
    | none => exact h
    | some r =>
      cases handlerInited with
      | false => exact h
      | true =>
        have hne : o.asObject ≠ some r := fun hr => hop ⟨rfl, hr⟩
        simp only [apply, onObserverDied, onObserverDiedInner, if_true]
        cases hfind : registry.groupChangeObservers.toList.find?
            fun item => item.2.asObject = some r with
        | none => exact h
        | some item =>
          have hmem := Std.TreeMap.mem_toList_iff_getElem?_eq_some.1
            (List.mem_of_find?_eq_some hfind)
          have hr : item.2.asObject = some r := by simpa using List.find?_some hfind
          have hitem : item.1 ≠ t := by
            intro heq
            rw [heq, h, Option.some_inj] at hmem
            exact hne (hmem ▸ hr)
          simp only
          rw [Std.TreeMap.getElem?_erase, if_neg (by simpa using hitem), h]

end ObserverRegistry
end DeviceUsageStats
