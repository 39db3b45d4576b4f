import DeviceUsageStats.Spec.Subscription
import DeviceUsageStats.Sanity.Observers

/-! A client's subscription outlives the service. What the service holds for a client is always what the
client remembers, and what a client remembers is registered as soon as the service runs and neither a death
notice nor a task of the client is outstanding. -/

namespace DeviceUsageStats
namespace SubscriptionSystem

variable {permitted : ℕ → Bool} {s s' : SubscriptionSystem} {t t' : ℕ} {o : IAppGroupCallback}

/-- The life of the service that a client's proxy stands for. -/
def proxyOf (s : SubscriptionSystem) (t : ℕ) : Option ℕ := (s.clients t).bundleActiveProxy

/-- The proxy stands for a service that has died. -/
def Stale (s : SubscriptionSystem) (t : ℕ) : Prop := ∃ life < s.life, s.proxyOf t = some life

/-- How the service, a client and the messages between them stand to each other. -/
structure Coupled (permitted : ℕ → Bool) (s : SubscriptionSystem) (t : ℕ) : Prop where
  past : ∀ life, s.proxyOf t = some life → life ≤ s.life
  recipient : s.proxyOf t ≠ none → (s.clients t).recipient ≠ none
  down : s.service = none → s.proxyOf t ≠ some s.life
  stale : s.Stale t → s.deathNotices t = 1
  fresh : ¬ s.Stale t → s.deathNotices t = 0
  registered : ∀ o, s.registered t = some o → s.remembered t = some o ∧ s.proxyOf t = some s.life
  remembered : ∀ o, s.remembered t = some o → permitted t = true ∧
    (s.registered t = some o ∨ 0 < s.deathNotices t ∨ 0 < s.serviceDiedTasks t)

theorem Coupled.congr (h : Coupled permitted s t) (hlife : s'.life = s.life)
    (hservice : s'.service = none → s.service = none) (hclient : s'.clients t = s.clients t)
    (hregistered : s'.registered t = s.registered t)
    (hnotices : s'.deathNotices t = s.deathNotices t)
    (htasks : s'.serviceDiedTasks t = s.serviceDiedTasks t) : Coupled permitted s' t := by
  have hproxy : s'.proxyOf t = s.proxyOf t := by rw [proxyOf, hclient, proxyOf]
  have hremembered : s'.remembered t = s.remembered t := by
    rw [SubscriptionSystem.remembered, hclient, SubscriptionSystem.remembered]
  have hstale : s'.Stale t ↔ s.Stale t := by rw [Stale, hlife, hproxy, Stale]
  constructor
  · rw [hproxy, hlife]
    exact h.past
  · rw [hproxy, hclient]
    exact h.recipient
  · intro hdown
    rw [hproxy, hlife]
    exact h.down (hservice hdown)
  · rw [hstale, hnotices]
    exact h.stale
  · rw [hstale, hnotices]
    exact h.fresh
  · rw [hregistered, hremembered, hproxy, hlife]
    exact h.registered
  · rw [hregistered, hremembered, hnotices, htasks]
    exact h.remembered

/-! ### The proxy -/

@[simp] theorem clients_setClient (s : SubscriptionSystem) (t : ℕ) (client : BundleActiveClient) :
    (s.setClient t client).clients = Function.update s.clients t client := rfl

/-- A proxy is there, cannot be had, or is made for the service that runs. -/
theorem getBundleActiveProxy_cases (s : SubscriptionSystem) (t : ℕ) :
    (∃ life, s.proxyOf t = some life ∧ s.getBundleActiveProxy t = (true, s)) ∨
      (s.proxyOf t = none ∧ s.service = none ∧ s.getBundleActiveProxy t = (false, s)) ∨
      (s.proxyOf t = none ∧ s.service ≠ none ∧
        s.getBundleActiveProxy t = (true, s.setClient t
          { bundleActiveProxy := some s.life
            recipient := some ((s.clients t).recipient.getD {}) })) := by
  unfold proxyOf getBundleActiveProxy
  cases hproxy : (s.clients t).bundleActiveProxy with
  | some life => exact .inl ⟨life, rfl, by simp [hproxy]⟩
  | none =>
    cases hservice : s.service with
    | none => exact .inr (.inl ⟨rfl, rfl, by simp [hproxy]⟩)
    | some registry => exact .inr (.inr ⟨rfl, by simp, by simp [hproxy]⟩)

theorem getBundleActiveProxy_frame (s : SubscriptionSystem) (t : ℕ) :
    (s.getBundleActiveProxy t).2.service = s.service ∧
      (s.getBundleActiveProxy t).2.life = s.life ∧
      (s.getBundleActiveProxy t).2.deathNotices = s.deathNotices ∧
      (s.getBundleActiveProxy t).2.serviceDiedTasks = s.serviceDiedTasks ∧
      (∀ t', (s.getBundleActiveProxy t).2.remembered t' = s.remembered t') ∧
      ∀ t' ≠ t, (s.getBundleActiveProxy t).2.clients t' = s.clients t' := by
  rcases getBundleActiveProxy_cases s t with ⟨life, -, h⟩ | ⟨-, -, h⟩ | ⟨-, -, h⟩ <;> rw [h]
  · exact ⟨rfl, rfl, rfl, rfl, fun _ => rfl, fun _ _ => rfl⟩
  · exact ⟨rfl, rfl, rfl, rfl, fun _ => rfl, fun _ _ => rfl⟩
  · refine ⟨rfl, rfl, rfl, rfl, fun t' => ?_, fun t' ht' => ?_⟩
    · by_cases ht' : t' = t
      · subst ht'
        simp only [SubscriptionSystem.remembered, clients_setClient, Function.update_self]
        cases (s.clients t').recipient <;> rfl
      · simp only [SubscriptionSystem.remembered, clients_setClient, Function.update_of_ne ht']
    · rw [clients_setClient, Function.update_of_ne ht']

theorem coupled_getBundleActiveProxy (h : ∀ t', Coupled permitted s t') (t t' : ℕ) :
    Coupled permitted (s.getBundleActiveProxy t).2 t' := by
  rcases getBundleActiveProxy_cases s t with ⟨life, -, hget⟩ | ⟨-, -, hget⟩ | ⟨hnone, hup, hget⟩
  · rw [hget]
    exact h t'
  · rw [hget]
    exact h t'
  · obtain ⟨hservice, hlife, hnotices, htasks, hremembered, hclients⟩ := getBundleActiveProxy_frame s t
    by_cases ht' : t' = t
    · subst ht'
      have hproxy : (s.getBundleActiveProxy t').2.proxyOf t' = some s.life := by
        rw [hget, proxyOf, clients_setClient, Function.update_self]
      have hfresh : ¬ s.Stale t' := by
        rintro ⟨life, -, hlife⟩
        rw [hnone] at hlife
        cases hlife
      have hregistered : (s.getBundleActiveProxy t').2.registered t' = s.registered t' := by
        rw [SubscriptionSystem.registered, hservice, SubscriptionSystem.registered]
      have hfresh' : ¬ (s.getBundleActiveProxy t').2.Stale t' := by
        rintro ⟨life, hlt, hlife'⟩
        rw [hlife] at hlt
        rw [hproxy, Option.some_inj] at hlife'
        exact absurd hlife' hlt.ne'
      constructor
      · intro life hlife'
        rw [hproxy, Option.some_inj] at hlife'
        rw [hlife, hlife']
      · intro _
        rw [hget, clients_setClient, Function.update_self]
        exact Option.some_ne_none _
      · intro hdown
        exact absurd (hservice ▸ hdown) hup
      · exact fun hstale => absurd hstale hfresh'
      · intro _
        rw [hnotices]
        exact (h t').fresh hfresh
      · intro o ho
        rw [hregistered] at ho
        exact absurd ((h t').registered o ho).2 (by rw [hnone]; simp)
      · rw [hremembered, hregistered, hnotices, htasks]
        exact (h t').remembered
    · refine (h t').congr hlife (fun hdown => hservice ▸ hdown) (hclients t' ht') ?_
        (congrFun hnotices t') (congrFun htasks t')
      rw [SubscriptionSystem.registered, hservice, SubscriptionSystem.registered]

/-! ### The calls of the service -/

variable (permitted) in
/-- A call that is refused anywhere changes nothing, and one that is carried out came over a proxy of the
service that runs from a client that may call. -/
theorem callService_cases {call : ObserverRegistry → ObserverErrCode × ObserverRegistry}
    (hrefused : ∀ registry, (call registry).1 ≠ .errOk → (call registry).2 = registry)
    (s : SubscriptionSystem) (t : ℕ) :
    ((s.callService permitted t call).1 ≠ .core .errOk ∧ (s.callService permitted t call).2 = s) ∨
      ∃ registry, s.service = some registry ∧ s.proxyOf t = some s.life ∧ permitted t = true ∧
        (call registry).1 = .errOk ∧
        s.callService permitted t call =
          (.core .errOk, { s with service := some (call registry).2 }) := by
  unfold callService
  cases hservice : s.service with
  | none => exact .inl ⟨by simp, rfl⟩
  | some registry =>
    by_cases hproxy : (s.clients t).bundleActiveProxy = some s.life
    swap
    · exact .inl ⟨by simp [hproxy], by simp [hproxy]⟩
    by_cases hpermitted : permitted t = true
    swap
    · exact .inl ⟨by simp [hproxy, hpermitted], by simp [hproxy, hpermitted]⟩
    by_cases hok : (call registry).1 = .errOk
    · exact .inr ⟨registry, rfl, hproxy, hpermitted, hok, by simp [hproxy, hpermitted, hok]⟩
    · refine .inl ⟨by simp [hproxy, hpermitted, hok], ?_⟩
      simp only [hproxy, hpermitted, hrefused registry hok, ← hservice, ne_eq, not_true_eq_false,
        if_false, Bool.true_eq_false]

/-- A call that was carried out changed what is registered for its client, and the client remembers the
same. -/
def carriedOut (s : SubscriptionSystem) (t : ℕ) (registry : ObserverRegistry)
    (observer : Option IAppGroupCallback) : SubscriptionSystem :=
  { s with service := some registry }.modifyRecipient t fun r => { r with observer := observer }

theorem coupled_carriedOut (h : ∀ t', Coupled permitted s t') {old registry : ObserverRegistry}
    {observer : Option IAppGroupCallback} (hservice : s.service = some old)
    (hproxy : s.proxyOf t = some s.life) (hpermitted : permitted t = true)
    (hat : registry.groupChangeObservers[t]? = observer)
    (hoff : ∀ t' ≠ t, registry.groupChangeObservers[t']? = old.groupChangeObservers[t']?) (t' : ℕ) :
    Coupled permitted (s.carriedOut t registry observer) t' := by
  by_cases ht' : t' = t
  · subst ht'
    have hproxy' : (s.carriedOut t' registry observer).proxyOf t' = s.proxyOf t' := by
      simp [carriedOut, modifyRecipient, proxyOf]
    have hremembered : (s.carriedOut t' registry observer).remembered t' = observer := by
      have hrecipient := (h t').recipient (by rw [hproxy]; exact Option.some_ne_none _)
      obtain ⟨recipient, hrecipient⟩ := Option.ne_none_iff_exists'.mp hrecipient
      simp [carriedOut, modifyRecipient, SubscriptionSystem.remembered, hrecipient]
    have hregistered : (s.carriedOut t' registry observer).registered t' = observer := by
      simp [carriedOut, modifyRecipient, setClient, SubscriptionSystem.registered, hat]
    have hstale : (s.carriedOut t' registry observer).Stale t' ↔ s.Stale t' := by
      rw [Stale, Stale, hproxy']
      rfl
    constructor
    · rw [hproxy']
      exact (h t').past
    · intro hsome
      rw [hproxy'] at hsome
      simpa [carriedOut, modifyRecipient] using (h t').recipient hsome
    · intro hdown
      cases hdown
    · rw [hstale]
      exact (h t').stale
    · rw [hstale]
      exact (h t').fresh
    · intro o ho
      rw [hregistered] at ho
      rw [hremembered, hproxy']
      exact ⟨ho, hproxy⟩
    · intro o ho
      rw [hremembered] at ho
      rw [hregistered]
      exact ⟨hpermitted, .inl ho⟩
  · refine (h t').congr rfl (fun hdown => by cases hdown) ?_ ?_ rfl rfl
    · simp [carriedOut, modifyRecipient, ht']
    · simp only [carriedOut, modifyRecipient, setClient, SubscriptionSystem.registered, hservice,
        Option.bind_some, hoff t' ht']

variable (permitted) in
theorem registerAppGroupCallBack_cases (s : SubscriptionSystem) (t : ℕ)
    (observer : Option IAppGroupCallback) :
    ((s.registerAppGroupCallBack permitted t observer).1 ≠ .core .errOk ∧
        (s.registerAppGroupCallBack permitted t observer).2 = (s.getBundleActiveProxy t).2) ∨
      ∃ old o registry, observer = some o ∧ (s.getBundleActiveProxy t).2.service = some old ∧
        (s.getBundleActiveProxy t).2.proxyOf t = some (s.getBundleActiveProxy t).2.life ∧
        permitted t = true ∧
        registry.groupChangeObservers = old.groupChangeObservers.insert t o ∧
        s.registerAppGroupCallBack permitted t observer =
          (.core .errOk, (s.getBundleActiveProxy t).2.carriedOut t registry (some o)) := by
  unfold registerAppGroupCallBack
  rcases hget : s.getBundleActiveProxy t with ⟨found, g⟩
  cases found with
  | false => exact .inl ⟨by simp, rfl⟩
  | true =>
    have hunchanged : ∀ registry : ObserverRegistry,
        (registry.registerAppGroupCallBack t observer).1 ≠ .errOk →
          (registry.registerAppGroupCallBack t observer).2 = registry :=
      fun _ => ObserverRegistry.register_refused
    rcases callService_cases permitted hunchanged g t with
      ⟨hrefused, hstate⟩ | ⟨old, hservice, hproxy, hpermitted, hok, hcall⟩
    · refine .inl ⟨by simp [hrefused], ?_⟩
      simpa [hrefused] using hstate
    · obtain ⟨o, rfl, -, hinsert⟩ := ObserverRegistry.register_taken hok
      refine .inr ⟨old, o, _, rfl, hservice, hproxy, hpermitted, hinsert, ?_⟩
      simp only [hcall, if_true, Bool.true_eq_false, if_false]
      rfl

variable (permitted) in
theorem unRegisterAppGroupCallBack_cases (s : SubscriptionSystem) (t : ℕ) :
    ((s.unRegisterAppGroupCallBack permitted t).1 ≠ .core .errOk ∧
        (s.unRegisterAppGroupCallBack permitted t).2 = (s.getBundleActiveProxy t).2) ∨
      ∃ old registry, (s.getBundleActiveProxy t).2.service = some old ∧
        (s.getBundleActiveProxy t).2.proxyOf t = some (s.getBundleActiveProxy t).2.life ∧
        permitted t = true ∧ (old.unRegisterAppGroupCallBack t).1 = .errOk ∧
        registry.groupChangeObservers = old.groupChangeObservers.erase t ∧
        s.unRegisterAppGroupCallBack permitted t =
          (.core .errOk, (s.getBundleActiveProxy t).2.carriedOut t registry none) := by
  unfold unRegisterAppGroupCallBack
  rcases hget : s.getBundleActiveProxy t with ⟨found, g⟩
  cases found with
  | false => exact .inl ⟨by simp, rfl⟩
  | true =>
    rcases callService_cases permitted
      (fun _ => ObserverRegistry.unRegister_refused (t := t)) g t with
      ⟨hrefused, hstate⟩ | ⟨old, hservice, hproxy, hpermitted, hok, hcall⟩
    · refine .inl ⟨by simp [hrefused], ?_⟩
      simpa [hrefused] using hstate
    · refine .inr ⟨old, _, hservice, hproxy, hpermitted, hok, ObserverRegistry.unRegister_taken hok, ?_⟩
      simp only [hcall, if_true, Bool.true_eq_false, if_false]
      rfl

theorem coupled_register (h : ∀ t', Coupled permitted s t') (t : ℕ)
    (observer : Option IAppGroupCallback) (t' : ℕ) :
    Coupled permitted (s.registerAppGroupCallBack permitted t observer).2 t' := by
  have hg := coupled_getBundleActiveProxy h t
  rcases registerAppGroupCallBack_cases permitted s t observer with
    ⟨-, hstate⟩ | ⟨old, o, registry, -, hservice, hproxy, hpermitted, hinsert, hstate⟩
  · rw [hstate]
    exact hg t'
  · rw [hstate]
    refine coupled_carriedOut hg hservice hproxy hpermitted ?_ (fun t' ht' => ?_) t'
    · simp [hinsert]
    · simp [hinsert, Std.TreeMap.getElem?_insert, ht'.symm]

theorem coupled_unRegister (h : ∀ t', Coupled permitted s t') (t t' : ℕ) :
    Coupled permitted (s.unRegisterAppGroupCallBack permitted t).2 t' := by
  have hg := coupled_getBundleActiveProxy h t
  rcases unRegisterAppGroupCallBack_cases permitted s t with
    ⟨-, hstate⟩ | ⟨old, registry, hservice, hproxy, hpermitted, -, herase, hstate⟩
  · rw [hstate]
    exact hg t'
  · rw [hstate]
    refine coupled_carriedOut hg hservice hproxy hpermitted ?_ (fun t' ht' => ?_) t'
    · simp [herase]
    · simp [herase, Std.TreeMap.getElem?_erase, ht'.symm]

/-! ### The death of the service -/

theorem coupled_serviceStarts (h : ∀ t', Coupled permitted s t') (hdown : s.service = none) (t' : ℕ) :
    Coupled permitted { s with service := some {} } t' := by
  refine (h t').congr rfl (fun hnone => by cases hnone) rfl ?_ rfl rfl
  simp [SubscriptionSystem.registered, hdown]

theorem coupled_serviceDies (h : ∀ t', Coupled permitted s t') (t : ℕ) :
    Coupled permitted s.serviceDies t := by
  have hproxy : s.serviceDies.proxyOf t = s.proxyOf t := rfl
  have hlife : s.serviceDies.life = s.life + 1 := rfl
  have hnotices : s.serviceDies.deathNotices t =
      s.deathNotices t + if s.proxyOf t = some s.life then 1 else 0 := rfl
  constructor
  · intro life hsome
    rw [hlife]
    exact Nat.le_succ_of_le ((h t).past life hsome)
  · exact (h t).recipient
  · intro _ hsome
    have := (h t).past _ hsome
    omega
  · rintro ⟨life, hlt, hsome⟩
    rw [hproxy] at hsome
    rw [hnotices]
    by_cases hnow : life = s.life
    · have hfresh : ¬ s.Stale t := by
        rintro ⟨life', hlt', hsome'⟩
        rw [hsome, Option.some_inj] at hsome'
        omega
      rw [(h t).fresh hfresh, if_pos (by rw [hsome, hnow])]
    · rw [(h t).stale ⟨life, by omega, hsome⟩, if_neg]
      rw [hsome, Option.some_inj]
      exact hnow
  · intro hfresh
    have hnone : s.proxyOf t = none := by
      cases hsome : s.proxyOf t with
      | none => rfl
      | some life => exact absurd ⟨life, Nat.lt_succ_of_le ((h t).past life hsome), hsome⟩ hfresh
    have hfresh' : ¬ s.Stale t := by
      rintro ⟨life, -, hsome⟩
      rw [hnone] at hsome
      cases hsome
    rw [hnotices, (h t).fresh hfresh', hnone]
    rfl
  · intro o ho
    cases ho
  · intro o ho
    obtain ⟨hpermitted, hregistered | hwaiting⟩ := (h t).remembered o ho
    · refine ⟨hpermitted, .inr (.inl ?_)⟩
      rw [hnotices, if_pos ((h t).registered o hregistered).2]
      omega
    · refine ⟨hpermitted, .inr (hwaiting.imp (fun hpos => ?_) id)⟩
      rw [hnotices]
      omega

theorem coupled_onRemoteDied (h : ∀ t', Coupled permitted s t') (hnotice : 0 < s.deathNotices t)
    (t' : ℕ) : Coupled permitted (s.onRemoteDied t) t' := by
  by_cases ht' : t' = t
  · subst ht'
    have hstale : s.Stale t' := by
      by_contra hfresh
      rw [(h t').fresh hfresh] at hnotice
      exact absurd hnotice (Nat.lt_irrefl 0)
    have hproxy : (s.onRemoteDied t').proxyOf t' = none := by simp [onRemoteDied, proxyOf]
    have hfresh : ¬ (s.onRemoteDied t').Stale t' := by
      rintro ⟨life, -, hsome⟩
      rw [hproxy] at hsome
      cases hsome
    have hregistered : (s.onRemoteDied t').registered t' = s.registered t' := rfl
    have hremembered : (s.onRemoteDied t').remembered t' = s.remembered t' := by
      simp [onRemoteDied, SubscriptionSystem.remembered]
    constructor
    · intro life hsome
      rw [hproxy] at hsome
      cases hsome
    · intro hsome
      exact absurd hproxy hsome
    · intro _ hsome
      rw [hproxy] at hsome
      cases hsome
    · exact fun hstale => absurd hstale hfresh
    · intro _
      simp [onRemoteDied, (h t').stale hstale]
    · intro o ho
      obtain ⟨life, hlt, hsome⟩ := hstale
      have hnow := ((h t').registered o (hregistered ▸ ho)).2
      rw [hsome, Option.some_inj] at hnow
      omega
    · intro o ho
      refine ⟨((h t').remembered o (hremembered ▸ ho)).1, .inr (.inr ?_)⟩
      simp [onRemoteDied]
  · refine (h t').congr rfl id ?_ rfl ?_ ?_
    · simp [onRemoteDied, ht']
    · simp [onRemoteDied, ht']
    · simp [onRemoteDied, ht']

theorem getBundleActiveProxy_tasks (s : SubscriptionSystem) (t : ℕ) (tasks : ℕ → ℕ) :
    { s with serviceDiedTasks := tasks }.getBundleActiveProxy t =
      ((s.getBundleActiveProxy t).1,
        { (s.getBundleActiveProxy t).2 with serviceDiedTasks := tasks }) := by
  obtain ⟨service, life, clients, notices, oldTasks⟩ := s
  unfold getBundleActiveProxy
  dsimp only
  cases (clients t).bundleActiveProxy with
  | some life => rfl
  | none => cases service <;> rfl

theorem callService_tasks (call : ObserverRegistry → ObserverErrCode × ObserverRegistry)
    (s : SubscriptionSystem) (t : ℕ) (tasks : ℕ → ℕ) :
    { s with serviceDiedTasks := tasks }.callService permitted t call =
      ((s.callService permitted t call).1,
        { (s.callService permitted t call).2 with serviceDiedTasks := tasks }) := by
  obtain ⟨service, life, clients, notices, oldTasks⟩ := s
  unfold callService
  cases service with
  | none => rfl
  | some registry =>
    dsimp only
    split_ifs <;> rfl

theorem registerAppGroupCallBack_tasks (s : SubscriptionSystem) (t : ℕ)
    (observer : Option IAppGroupCallback) (tasks : ℕ → ℕ) :
    ({ s with serviceDiedTasks := tasks }.registerAppGroupCallBack permitted t observer).2 =
      { (s.registerAppGroupCallBack permitted t observer).2 with serviceDiedTasks := tasks } := by
  unfold registerAppGroupCallBack
  rw [getBundleActiveProxy_tasks]
  rcases s.getBundleActiveProxy t with ⟨found, g⟩
  simp only [callService_tasks]
  split_ifs <;> rfl

/-- With a proxy, registering what the client remembers succeeds unless a death notice is on its way. -/
theorem register_remembered (h : ∀ t', Coupled permitted s t') (hproxy : s.proxyOf t ≠ none)
    (ho : s.remembered t = some o) :
    (s.registerAppGroupCallBack permitted t (some o)).2.registered t = some o ∨
      0 < (s.registerAppGroupCallBack permitted t (some o)).2.deathNotices t := by
  obtain ⟨life, hlife⟩ := Option.ne_none_iff_exists'.mp hproxy
  have hget : s.getBundleActiveProxy t = (true, s) := by
    rcases getBundleActiveProxy_cases s t with ⟨-, -, hget⟩ | ⟨hnone, -⟩ | ⟨hnone, -⟩
    · exact hget
    · exact absurd hnone hproxy
    · exact absurd hnone hproxy
  rcases registerAppGroupCallBack_cases permitted s t (some o) with
    ⟨hrefused, hstate⟩ | ⟨old, o', registry, ho', -, -, -, hinsert, hstate⟩
  swap
  · cases ho'
    left
    rw [hstate]
    simp [SubscriptionSystem.registered, carriedOut, modifyRecipient, setClient, hinsert]
  rw [hstate, hget]
  by_cases hstale : s.Stale t
  · right
    rw [(h t).stale hstale]
    exact Nat.one_pos
  have hnow : life = s.life := by
    have hpast := (h t).past life hlife
    by_contra hne
    exact hstale ⟨life, by omega, hlife⟩
  subst hnow
  cases hservice : s.service with
  | none => exact absurd hlife ((h t).down hservice)
  | some registry =>
    left
    -- the call reaches the service, which can only refuse a token that has an observer
    have hpermitted := ((h t).remembered o ho).1
    unfold proxyOf at hlife
    cases hat : registry.groupChangeObservers[t]? with
    | none =>
      refine absurd ?_ hrefused
      have hcontains : t ∉ registry.groupChangeObservers := by simpa using hat
      simp [registerAppGroupCallBack, hget, callService, hservice, hlife, hpermitted,
        ObserverRegistry.registerAppGroupCallBack, hcontains]
    | some o' =>
      have hregistered : s.registered t = some o' := by
        simp [SubscriptionSystem.registered, hservice, hat]
      rw [← ho, ((h t).registered o' hregistered).1, hregistered]

theorem onServiceDiedInner_eq (s : SubscriptionSystem) (t : ℕ) :
    s.onServiceDiedInner permitted t =
      { (match s.remembered t with
          | none => (s.getBundleActiveProxy t).2
          | some o => ((s.getBundleActiveProxy t).2.registerAppGroupCallBack permitted t (some o)).2)
        with serviceDiedTasks := Function.update s.serviceDiedTasks t (s.serviceDiedTasks t - 1) } := by
  unfold onServiceDiedInner
  dsimp only
  rw [getBundleActiveProxy_tasks s t (Function.update _ t _)]
  have hremembered := (getBundleActiveProxy_frame s t).2.2.2.2.1 t
  simp only [SubscriptionSystem.remembered] at hremembered ⊢
  rw [hremembered]
  cases (s.clients t).recipient.bind (·.observer) with
  | none => rfl
  | some o => exact registerAppGroupCallBack_tasks _ t (some o) _

/-- A task is done with when what the client remembers is registered or a further notice is on its way. -/
theorem Coupled.taskDone (h : Coupled permitted s t) (tasks : ℕ → ℕ)
    (hdone : ∀ o, s.remembered t = some o → s.registered t = some o ∨ 0 < s.deathNotices t) :
    Coupled permitted { s with serviceDiedTasks := tasks } t := by
  refine ⟨h.past, h.recipient, h.down, h.stale, h.fresh, h.registered, fun o ho => ?_⟩
  exact ⟨(h.remembered o ho).1, (hdone o ho).imp id .inl⟩

theorem proxyOf_found (hfound : (s.getBundleActiveProxy t).1 = true) :
    (s.getBundleActiveProxy t).2.proxyOf t ≠ none := by
  rcases getBundleActiveProxy_cases s t with ⟨life, hproxy, hget⟩ | ⟨-, -, hget⟩ | ⟨-, -, hget⟩
  · rw [hget, hproxy]
    exact Option.some_ne_none _
  · rw [hget] at hfound
    cases hfound
  · rw [hget, proxyOf, clients_setClient, Function.update_self]
    exact Option.some_ne_none _

variable (permitted) in
theorem register_frame (s : SubscriptionSystem) (t : ℕ) (observer : Option IAppGroupCallback) :
    (s.registerAppGroupCallBack permitted t observer).2.serviceDiedTasks = s.serviceDiedTasks ∧
      (s.registerAppGroupCallBack permitted t observer).2.deathNotices = s.deathNotices ∧
      (∀ o, observer = some o → s.remembered t = some o →
        (s.registerAppGroupCallBack permitted t observer).2.remembered t = some o) ∧
      ∀ t' ≠ t, (s.registerAppGroupCallBack permitted t observer).2.remembered t' = s.remembered t' := by
  obtain ⟨-, -, hnotices, htasks, hremembered, -⟩ := getBundleActiveProxy_frame s t
  rcases registerAppGroupCallBack_cases permitted s t observer with
    ⟨-, hstate⟩ | ⟨old, o, registry, rfl, -, -, -, -, hstate⟩ <;> rw [hstate]
  · exact ⟨htasks, hnotices, fun o _ ho => (hremembered t).trans ho, fun t' _ => hremembered t'⟩
  · refine ⟨htasks, hnotices, fun o' ho' hsome => ?_, fun t' ht' => ?_⟩
    · cases ho'
      rw [← hremembered t] at hsome
      simp only [SubscriptionSystem.remembered, carriedOut, modifyRecipient, clients_setClient,
        Function.update_self] at hsome ⊢
      cases hrecipient : ((s.getBundleActiveProxy t).2.clients t).recipient with
      | none => simp [hrecipient] at hsome
      | some recipient => rfl
    · rw [← hremembered t']
      simp only [SubscriptionSystem.remembered, carriedOut, modifyRecipient, clients_setClient,
        Function.update_of_ne ht']

/-- What is remembered is registered after the task, or a notice is on its way. -/
theorem registered_onServiceDiedInner (h : ∀ t', Coupled permitted s t')
    (hfound : (s.getBundleActiveProxy t).1 = true) (ho : s.remembered t = some o) :
    (s.onServiceDiedInner permitted t).registered t = some o ∨ 0 < s.deathNotices t := by
  obtain ⟨-, -, hnotices, -, hremembered, -⟩ := getBundleActiveProxy_frame s t
  rw [onServiceDiedInner_eq, ho]
  refine (register_remembered (coupled_getBundleActiveProxy h t) (proxyOf_found hfound)
    ((hremembered t).trans ho)).imp id fun hpos => ?_
  rwa [(register_frame permitted _ t (some o)).2.1, hnotices] at hpos

theorem coupled_onServiceDiedInner (h : ∀ t', Coupled permitted s t')
    (hfound : (s.getBundleActiveProxy t).1 = true) (t' : ℕ) :
    Coupled permitted (s.onServiceDiedInner permitted t) t' := by
  have hg := coupled_getBundleActiveProxy h t
  obtain ⟨-, -, hnotices, htasks, hremembered, -⟩ := getBundleActiveProxy_frame s t
  rw [onServiceDiedInner_eq]
  by_cases ht' : t' = t
  · subst ht'
    cases ho : s.remembered t' with
    | none =>
      refine (hg t').taskDone _ fun o ho' => ?_
      rw [hremembered, ho] at ho'
      cases ho'
    | some o =>
      have hremembered' := (hremembered t').trans ho
      refine (coupled_register hg t' (some o) t').taskDone _ fun o' ho' => ?_
      rw [(register_frame permitted _ t' (some o)).2.2.1 o rfl hremembered', Option.some_inj] at ho'
      subst ho'
      exact register_remembered hg (proxyOf_found hfound) hremembered'
  · cases s.remembered t with
    | none =>
      refine (hg t').congr rfl id rfl rfl rfl ?_
      simp [htasks, ht']
    | some o =>
      refine (coupled_register hg t (some o) t').congr rfl id rfl rfl rfl ?_
      simp [(register_frame permitted _ t (some o)).1, htasks, ht']

/-! ### Runs -/

theorem coupled_apply (h : ∀ t, Coupled permitted s t) (op : SubscriptionOp) (hen : s.Enabled op) :
    ∀ t, Coupled permitted (s.apply permitted op) t := by
  intro t'
  cases op with
  | serviceStarts => exact coupled_serviceStarts h hen t'
  | serviceDies => exact coupled_serviceDies h t'
  | register t observer => exact coupled_register h t observer t'
  | unRegister t => exact coupled_unRegister h t t'
  | otherCall t => exact coupled_getBundleActiveProxy h t t'
  | remoteDied t => exact coupled_onRemoteDied h hen t'
  | serviceDiedInner t => exact coupled_onServiceDiedInner h hen.2 t'

theorem coupled_steps {Allowed : SubscriptionOp → Prop} (h : ∀ t, Coupled permitted s t)
    (hsteps : Steps permitted Allowed s s') : ∀ t, Coupled permitted s' t := by
  induction hsteps with
  | refl => exact h
  | tail _ hstep ih =>
    obtain ⟨op, -, hen, rfl⟩ := hstep
    exact coupled_apply ih op hen

theorem coupled_reached (hs : Reached permitted s) (t : ℕ) : Coupled permitted s t := by
  refine coupled_steps (fun t => ?_) hs t
  refine ⟨?_, ?_, ?_, ?_, ?_, ?_, ?_⟩
  · rintro life hlife
    cases hlife
  · intro hsome
    exact absurd rfl hsome
  · rintro - hsome
    cases hsome
  · rintro ⟨life, -, hlife⟩
    cases hlife
  · exact fun _ => rfl
  · rintro o ho
    cases ho
  · rintro o ho
    cases ho

theorem reached_steps {Allowed : SubscriptionOp → Prop} (hs : Reached permitted s)
    (hsteps : Steps permitted Allowed s s') : Reached permitted s' := by
  induction hsteps with
  | refl => exact hs
  | tail _ hstep ih =>
    obtain ⟨op, -, hen, heq⟩ := hstep
    exact ih.tail ⟨op, trivial, hen, heq⟩

theorem Coupled.registered_eq_remembered (h : Coupled permitted s t) (hnotices : s.deathNotices t = 0)
    (htasks : s.serviceDiedTasks t = 0) : s.registered t = s.remembered t := by
  cases hregistered : s.registered t with
  | some o => rw [(h.registered o hregistered).1]
  | none =>
    cases hremembered : s.remembered t with
    | none => rfl
    | some o =>
      obtain ⟨-, hsome | hpos | hpos⟩ := h.remembered o hremembered
      · rw [hregistered] at hsome
        cases hsome
      · exact absurd hpos (hnotices ▸ Nat.lt_irrefl 0)
      · exact absurd hpos (htasks ▸ Nat.lt_irrefl 0)

/-- The service never holds more for a client than the client remembers, and when nothing of a death of
the service is outstanding it holds just that. -/
theorem reached_registered (hs : Reached permitted s) (t : ℕ) :
    (∀ o, s.registered t = some o → s.remembered t = some o) ∧
      (s.deathNotices t = 0 → s.serviceDiedTasks t = 0 → s.registered t = s.remembered t) := by
  have h := coupled_reached hs t
  exact ⟨fun o ho => (h.registered o ho).1, h.registered_eq_remembered⟩

def subscribed : SubscriptionSystem :=
  apply (fun _ => true) (apply (fun _ => true) {} .serviceStarts) (.register 1 (some ⟨some 7⟩))

theorem reached_subscribed : Reached (fun _ => true) subscribed :=
  (Relation.ReflTransGen.single ⟨.serviceStarts, trivial, rfl, rfl⟩).tail
    ⟨.register 1 (some ⟨some 7⟩), trivial, trivial, rfl⟩

theorem reached_registered_subscribed :
    (∀ o, subscribed.registered 1 = some o → subscribed.remembered 1 = some o) ∧
      (subscribed.deathNotices 1 = 0 → subscribed.serviceDiedTasks 1 = 0 →
        subscribed.registered 1 = subscribed.remembered 1) :=
  reached_registered reached_subscribed 1

/-! ### A subscription that was ended -/

theorem remembered_setClient_of_ne (s : SubscriptionSystem) (client : BundleActiveClient)
    (ht : t' ≠ t) : (s.setClient t client).remembered t' = s.remembered t' := by
  simp only [SubscriptionSystem.remembered, clients_setClient, Function.update_of_ne ht]

theorem remembered_carriedOut_none (s : SubscriptionSystem) (t : ℕ) (registry : ObserverRegistry) :
    (s.carriedOut t registry none).remembered t = none := by
  simp only [SubscriptionSystem.remembered, carriedOut, modifyRecipient, clients_setClient,
    Function.update_self]
  cases (s.clients t).recipient <;> rfl

variable (permitted) in
/-- A client remembers what it did, whatever happens, until it registers an observer or ends the
subscription. -/
theorem remembered_apply (s : SubscriptionSystem) (t : ℕ) (op : SubscriptionOp)
    (hop : ∀ observer, op ≠ .register t observer) :
    (s.apply permitted op).remembered t = s.remembered t ∨
      op = .unRegister t ∧ (s.apply permitted op).remembered t = none := by
  cases op with
  | serviceStarts => exact .inl rfl
  | serviceDies => exact .inl rfl
  | register t' observer =>
    left
    have ht : t ≠ t' := by
      rintro rfl
      exact hop observer rfl
    exact (register_frame permitted s t' observer).2.2.2 t ht
  | unRegister t' =>
    have hremembered := (getBundleActiveProxy_frame s t').2.2.2.2.1 t
    simp only [apply]
    rcases unRegisterAppGroupCallBack_cases permitted s t' with
      ⟨-, hstate⟩ | ⟨old, registry, -, -, -, -, -, hstate⟩ <;> rw [hstate]
    · exact .inl hremembered
    · by_cases ht : t = t'
      · subst ht
        exact .inr ⟨rfl, remembered_carriedOut_none _ t registry⟩
      · exact .inl ((remembered_setClient_of_ne _ _ ht).trans hremembered)
  | otherCall t' => exact .inl ((getBundleActiveProxy_frame s t').2.2.2.2.1 t)
  | remoteDied t' =>
    left
    by_cases ht : t = t'
    · subst ht
      simp [apply, onRemoteDied, SubscriptionSystem.remembered]
    · simp [apply, onRemoteDied, SubscriptionSystem.remembered, ht]
  | serviceDiedInner t' =>
    left
    have hremembered := (getBundleActiveProxy_frame s t').2.2.2.2.1
    simp only [apply, onServiceDiedInner_eq]
    cases ho : s.remembered t' with
    | none => exact hremembered t
    | some o =>
      obtain ⟨-, -, hown, hother⟩ :=
        register_frame permitted (s.getBundleActiveProxy t').2 t' (some o)
      by_cases ht : t = t'
      · subst ht
        exact (hown o rfl ((hremembered t).trans ho)).trans ho.symm
      · exact (hother t ht).trans (hremembered t)

theorem unRegister_remembered (hok : (s.unRegisterAppGroupCallBack permitted t).1 = .core .errOk) :
    (s.unRegisterAppGroupCallBack permitted t).2.remembered t = none := by
  rcases unRegisterAppGroupCallBack_cases permitted s t with
    ⟨hrefused, -⟩ | ⟨old, registry, -, -, -, -, -, hstate⟩
  · exact absurd hok hrefused
  · rw [hstate]
    exact remembered_carriedOut_none _ t registry

/-- A subscription that was ended is not taken up again by the death of the service, in whatever order
notices, tasks and calls come. -/
theorem unRegistered_stays (hs : Reached permitted s) (t : ℕ)
    (hok : (s.unRegisterAppGroupCallBack permitted t).1 = .core .errOk)
    (hsteps : Steps permitted (fun op => ∀ observer, op ≠ .register t observer)
      (s.unRegisterAppGroupCallBack permitted t).2 s') :
    s'.registered t = none := by
  have hreached : Reached permitted s' :=
    reached_steps (hs.tail ⟨.unRegister t, trivial, trivial, rfl⟩) hsteps
  have hnone : s'.remembered t = none := by
    clear hreached
    induction hsteps with
    | refl => exact unRegister_remembered hok
    | tail _ hstep ih =>
      obtain ⟨op, hop, -, rfl⟩ := hstep
      rcases remembered_apply permitted _ t op hop with hsame | ⟨-, hnone⟩
      · exact hsame.trans ih
      · exact hnone
  rw [Option.eq_none_iff_forall_ne_some]
  intro o ho
  rw [((coupled_reached hreached t).registered o ho).1] at hnone
  cases hnone

/-- The state after a client has ended its subscription and the service died and was started again. -/
def restarted : SubscriptionSystem :=
  apply (fun _ => true)
    (apply (fun _ => true) (subscribed.unRegisterAppGroupCallBack (fun _ => true) 1).2 .serviceDies)
    .serviceStarts

theorem unRegistered_stays_restarted : (restarted.onRemoteDied 1).registered 1 = none := by
  refine unRegistered_stays reached_subscribed 1 (by decide) (.tail (.tail (.tail .refl
    ⟨.serviceDies, ?_, rfl, rfl⟩) ⟨.serviceStarts, ?_, rfl, rfl⟩) ⟨.remoteDied 1, ?_, Nat.one_pos, rfl⟩)
  all_goals simp

/-! ### A subscription that is taken up again -/

/-- The steps that need no call of the client. -/
inductive Recovers (t : ℕ) : SubscriptionOp → Prop where
  | serviceStarts : Recovers t .serviceStarts
  | remoteDied : Recovers t (.remoteDied t)
  | serviceDiedInner : Recovers t (.serviceDiedInner t)

theorem getBundleActiveProxy_up (hup : s.service ≠ none) (t : ℕ) :
    (s.getBundleActiveProxy t).1 = true := by
  rcases getBundleActiveProxy_cases s t with ⟨-, -, hget⟩ | ⟨-, hdown, -⟩ | ⟨-, -, hget⟩
  · rw [hget]
  · exact absurd hdown hup
  · rw [hget]

theorem recovers_task (h : ∀ t, Coupled permitted s t) (hup : s.service ≠ none)
    (hnotices : s.deathNotices t = 0) (ho : s.remembered t = some o) :
    ∃ s', Steps permitted (Recovers t) s s' ∧ s'.registered t = some o := by
  obtain ⟨-, hsome | hpos | hpos⟩ := (h t).remembered o ho
  · exact ⟨s, .refl, hsome⟩
  · exact absurd hpos (hnotices ▸ Nat.lt_irrefl 0)
  · have hfound := getBundleActiveProxy_up hup t
    refine ⟨_, .single ⟨.serviceDiedInner t, .serviceDiedInner, ⟨hpos, hfound⟩, rfl⟩, ?_⟩
    refine (registered_onServiceDiedInner h hfound ho).resolve_right fun hpos => ?_
    exact absurd hpos (hnotices ▸ Nat.lt_irrefl 0)

theorem recovers (hs : Reached permitted s) (t : ℕ) (ho : s.remembered t = some o) :
    ∃ s', Steps permitted (Recovers t) s s' ∧ s'.registered t = some o := by
  -- the service is started first, then the notice of its death is delivered, then the task runs
  have hup : ∃ s₁, Steps permitted (Recovers t) s s₁ ∧ s₁.service ≠ none ∧
      s₁.remembered t = some o := by
    by_cases hdown : s.service = none
    · exact ⟨_, .single ⟨.serviceStarts, .serviceStarts, hdown, rfl⟩, by simp [apply], ho⟩
    · exact ⟨s, .refl, hdown, ho⟩
  obtain ⟨s₁, hsteps₁, hup, ho⟩ := hup
  have h₁ := coupled_steps (coupled_reached hs) hsteps₁
  rcases Nat.eq_zero_or_pos (s₁.deathNotices t) with hnotices | hnotice
  · obtain ⟨s', hsteps, hregistered⟩ := recovers_task h₁ hup hnotices ho
    exact ⟨s', hsteps₁.trans hsteps, hregistered⟩
  · have hstep : Steps permitted (Recovers t) s₁ (s₁.onRemoteDied t) :=
      .single ⟨.remoteDied t, .remoteDied, hnotice, rfl⟩
    have hone : s₁.deathNotices t = 1 := by
      by_contra hne
      exact hne ((h₁ t).stale (by_contra fun hfresh => by
        rw [(h₁ t).fresh hfresh] at hnotice
        exact absurd hnotice (Nat.lt_irrefl 0)))
    have hnotices : (s₁.onRemoteDied t).deathNotices t = 0 := by simp [onRemoteDied, hone]
    have ho' : (s₁.onRemoteDied t).remembered t = some o := by
      rw [← ho]
      simp [onRemoteDied, SubscriptionSystem.remembered]
    obtain ⟨s', hsteps, hregistered⟩ := recovers_task (coupled_steps h₁ hstep) hup hnotices ho'
    exact ⟨s', (hsteps₁.trans hstep).trans hsteps, hregistered⟩

/-- What a client remembers can be registered again without a call of the client, and it is registered as
soon as nothing of a death of the service is outstanding, unless the client registered or ended anything
meanwhile. -/
theorem remembered_recovers (hs : Reached permitted s) (t : ℕ) (ho : s.remembered t = some o) :
    (∃ s', Steps permitted (Recovers t) s s' ∧ s'.registered t = some o) ∧
      ∀ s', Steps permitted (fun op => (∀ observer, op ≠ .register t observer) ∧ op ≠ .unRegister t)
        s s' → s'.deathNotices t = 0 → s'.serviceDiedTasks t = 0 → s'.registered t = some o := by
  refine ⟨recovers hs t ho, fun s' hsteps hnotices htasks => ?_⟩
  rw [(coupled_reached (reached_steps hs hsteps) t).registered_eq_remembered hnotices htasks]
  clear hnotices htasks
  induction hsteps with
  | refl => exact ho
  | tail _ hstep ih =>
    obtain ⟨op, ⟨hregister, hunRegister⟩, -, rfl⟩ := hstep
    rcases remembered_apply permitted _ t op hregister with hsame | ⟨heq, -⟩
    · exact hsame.trans ih
    · exact absurd heq hunRegister

/-- A client that ends its subscription while the service recovers is refused, and the subscription comes
back. -/
theorem unRegister_recovering (hs : Reached permitted s) (t : ℕ) (ho : s.remembered t = some o)
    (hnone : s.registered t = none) :
    (s.unRegisterAppGroupCallBack permitted t).1 ≠ .core .errOk ∧
      (∃ s', Steps permitted (Recovers t) (s.unRegisterAppGroupCallBack permitted t).2 s' ∧
        s'.registered t = some o) := by
  obtain ⟨hservice, -, -, -, hremembered, -⟩ := getBundleActiveProxy_frame s t
  rcases unRegisterAppGroupCallBack_cases permitted s t with
    ⟨hrefused, hstate⟩ | ⟨old, registry, hold, -, -, hok, -, -⟩
  · refine ⟨hrefused, recovers (hs.tail ⟨.unRegister t, trivial, trivial, rfl⟩) t ?_⟩
    simp only [apply]
    rw [hstate, hremembered, ho]
  · rw [hservice] at hold
    have hat : old.groupChangeObservers[t]? = none := by
      simpa [SubscriptionSystem.registered, hold] using hnone
    rw [ObserverRegistry.unRegisterAppGroupCallBack, hat] at hok
    cases hok

theorem remembered_recovers_subscribed :
    (∃ s', Steps (fun _ => true) (Recovers 1) subscribed.serviceDies s' ∧
      s'.registered 1 = some ⟨some 7⟩) ∧
    ∀ s', Steps (fun _ => true)
        (fun op => (∀ observer, op ≠ .register 1 observer) ∧ op ≠ .unRegister 1)
        subscribed.serviceDies s' →
      s'.deathNotices 1 = 0 → s'.serviceDiedTasks 1 = 0 → s'.registered 1 = some ⟨some 7⟩ :=
  remembered_recovers (reached_subscribed.tail ⟨.serviceDies, trivial, rfl, rfl⟩) 1 (by decide)

theorem unRegister_recovering_subscribed :
    (subscribed.serviceDies.unRegisterAppGroupCallBack (fun _ => true) 1).1 ≠ .core .errOk ∧
      (∃ s', Steps (fun _ => true) (Recovers 1)
        (subscribed.serviceDies.unRegisterAppGroupCallBack (fun _ => true) 1).2 s' ∧
        s'.registered 1 = some ⟨some 7⟩) :=
  unRegister_recovering (reached_subscribed.tail ⟨.serviceDies, trivial, rfl, rfl⟩) 1 (by decide)
    (by decide)

end SubscriptionSystem
end DeviceUsageStats
