import DeviceUsageStats.Spec.ObserverRegistry

/-! Observers and death recipients correspond as long as a remote object is registered under one token when
an observer of it leaves: the recipient goes with the first token, and a death takes out one observer. -/

namespace DeviceUsageStats
namespace ObserverRegistry

variable {s : ObserverRegistry} {token r : ℕ}

def objectOf (s : ObserverRegistry) (token : ℕ) : Option ℕ :=
  (s.groupChangeObservers[token]?).bind (·.asObject)

/-- No second token is registered with the remote object that leaves, and the handler is there to process
a death. -/
def OneToken (s : ObserverRegistry) : ObserverOp → Prop
  | .unRegister token => ∀ r, s.objectOf token = some r → ∀ other, s.objectOf other = some r →
      other = token
  | .died (some r) handlerInited => ∀ token, s.objectOf token = some r → handlerInited = true ∧
      ∀ other, s.objectOf other = some r → other = token
  | _ => True

/-- Observers and death recipients correspond. -/
structure Corresponds (s : ObserverRegistry) : Prop where
  recipient : ∀ token r, s.objectOf token = some r → r ∈ s.recipientMap
  observer : ∀ r ∈ s.recipientMap, ∃ token, s.objectOf token = some r

/-! ### What the operations do -/

theorem objectOf_insert (m : Std.TreeMap ℕ IAppGroupCallback) (recipients : Std.TreeSet ℕ)
    (token : ℕ) (observer : IAppGroupCallback) (other : ℕ) :
    objectOf ⟨m.insert token observer, recipients⟩ other =
      if other = token then observer.asObject else objectOf ⟨m, recipients⟩ other := by
  unfold objectOf
  simp only [Std.TreeMap.getElem?_insert, Std.LawfulEqCmp.compare_eq_iff_eq, eq_comm (a := token)]
  split_ifs <;> rfl

theorem objectOf_erase (m : Std.TreeMap ℕ IAppGroupCallback) (recipients : Std.TreeSet ℕ)
    (token other : ℕ) : objectOf ⟨m.erase token, recipients⟩ other =
      if other = token then none else objectOf ⟨m, recipients⟩ other := by
  unfold objectOf
  simp only [Std.TreeMap.getElem?_erase, Std.LawfulEqCmp.compare_eq_iff_eq, eq_comm (a := token)]
  split_ifs <;> rfl

theorem addObserverDeathRecipient_spec (s : ObserverRegistry) (observer : IAppGroupCallback) :
    (s.addObserverDeathRecipient observer).groupChangeObservers = s.groupChangeObservers ∧
      ∀ r, r ∈ (s.addObserverDeathRecipient observer).recipientMap ↔
        r ∈ s.recipientMap ∨ observer.asObject = some r := by
  unfold addObserverDeathRecipient
  cases observer.asObject with
  | none => simp
  | some object =>
    simp only
    split_ifs with hmem
    · refine ⟨rfl, fun r => ⟨.inl, ?_⟩⟩
      rintro (h | h)
      · exact h
      · exact Option.some.inj h ▸ hmem
    · refine ⟨rfl, fun r => ?_⟩
      rw [Std.TreeSet.mem_insert, Std.LawfulEqCmp.compare_eq_iff_eq, Option.some_inj, or_comm]

theorem removeObserverDeathRecipient_spec (s : ObserverRegistry) (observer : IAppGroupCallback) :
    (s.removeObserverDeathRecipient observer).groupChangeObservers = s.groupChangeObservers ∧
      ∀ r, r ∈ (s.removeObserverDeathRecipient observer).recipientMap ↔
        r ∈ s.recipientMap ∧ observer.asObject ≠ some r := by
  unfold removeObserverDeathRecipient
  cases observer.asObject with
  | none => simp
  | some object =>
    simp only [ne_eq, Option.some_inj]
    split_ifs with hmem
    · refine ⟨rfl, fun r => ?_⟩
      rw [Std.TreeSet.mem_erase, ne_eq, Std.LawfulEqCmp.compare_eq_iff_eq, and_comm]
    · refine ⟨rfl, fun r => ⟨fun h => ⟨h, ?_⟩, And.left⟩⟩
      rintro rfl
      exact hmem h

theorem unRegister_spec (s : ObserverRegistry) (token : ℕ) :
    (∀ other, (s.unRegisterAppGroupCallBack token).2.objectOf other =
        if other = token then none else s.objectOf other) ∧
      ∀ r, r ∈ (s.unRegisterAppGroupCallBack token).2.recipientMap ↔
        r ∈ s.recipientMap ∧ s.objectOf token ≠ some r := by
  unfold unRegisterAppGroupCallBack
  cases hobserver : s.groupChangeObservers[token]? with
  | none =>
    have hnone : s.objectOf token = none := by rw [objectOf, hobserver, Option.bind_none]
    refine ⟨fun other => ?_, fun r => ?_⟩
    · split_ifs with heq
      · rw [heq, hnone]
      · rfl
    · rw [hnone]
      simp
  | some observer =>
    have hobject : s.objectOf token = observer.asObject := by
      rw [objectOf, hobserver, Option.bind_some]
    obtain ⟨hobservers, hrecipients⟩ := removeObserverDeathRecipient_spec s observer
    rw [hobject]
    refine ⟨fun other => ?_, hrecipients⟩
    change objectOf ⟨(s.removeObserverDeathRecipient observer).groupChangeObservers.erase token, _⟩
      other = _
    rw [objectOf_erase, hobservers]
    rfl

theorem onObserverDiedInner_spec (s : ObserverRegistry) (r : ℕ) :
    ((∀ token, s.objectOf token ≠ some r) ∧ (s.onObserverDiedInner r).objectOf = s.objectOf ∨
      ∃ token, s.objectOf token = some r ∧ ∀ other, (s.onObserverDiedInner r).objectOf other =
        if other = token then none else s.objectOf other) ∧
      ∀ r', r' ∈ (s.onObserverDiedInner r).recipientMap ↔ r' ∈ s.recipientMap ∧ r' ≠ r := by
  have hobject : ∀ item ∈ s.groupChangeObservers.toList, s.objectOf item.1 = item.2.asObject := by
    intro item hitem
    rw [objectOf, Std.TreeMap.mem_toList_iff_getElem?_eq_some.1 hitem, Option.bind_some]
  refine ⟨?_, fun r' => ?_⟩
  · unfold onObserverDiedInner
    cases hfind : s.groupChangeObservers.toList.find? fun item => item.2.asObject = some r with
    | none =>
      refine .inl ⟨fun token hobject => ?_, rfl⟩
      obtain ⟨observer, hobserver, hr⟩ := Option.bind_eq_some_iff.1 hobject
      have hmem := Std.TreeMap.mem_toList_iff_getElem?_eq_some.2 hobserver
      exact absurd (decide_eq_true hr) (List.find?_eq_none.1 hfind (token, observer) hmem)
    | some item =>
      refine .inr ⟨item.1, ?_, fun other => objectOf_erase _ _ item.1 other⟩
      rw [hobject item (List.mem_of_find?_eq_some hfind)]
      have hfound := List.find?_some hfind
      exact of_decide_eq_true hfound
  · rw [onObserverDiedInner, Std.TreeSet.mem_erase, ne_eq, Std.LawfulEqCmp.compare_eq_iff_eq,
      and_comm, eq_comm]

/-! ### Steps and runs -/

/-- Whether a step leaves the maps in agreement and, if an observer died, no observer of its object. -/
structure Agrees (s : ObserverRegistry) (op : ObserverOp) : Prop where
  corresponds : Corresponds (s.apply op)
  died : ∀ r handlerInited, op = .died (some r) handlerInited →
    ∀ token, (s.apply op).objectOf token ≠ some r

theorem corresponds_new : Corresponds {} := by
  refine ⟨fun token r hobject => ?_, fun r hr => ?_⟩
  · rw [objectOf, Std.TreeMap.getElem?_emptyc, Option.bind_none] at hobject
    cases hobject
  · exact absurd hr Std.TreeSet.not_mem_emptyc

theorem corresponds_register (hs : Corresponds s) (observer : Option IAppGroupCallback) :
    Corresponds (s.registerAppGroupCallBack token observer).2 := by
  unfold registerAppGroupCallBack
  cases observer with
  | none => exact hs
  | some observer =>
    simp only
    split_ifs with htoken
    · exact hs
    · have hnone : s.objectOf token = none := by
        rw [objectOf, Std.TreeMap.getElem?_eq_none htoken, Option.bind_none]
      obtain ⟨hobservers, hrecipients⟩ := addObserverDeathRecipient_spec
        { s with groupChangeObservers := s.groupChangeObservers.insert token observer } observer
      have hobject : ∀ other, objectOf (addObserverDeathRecipient
          { s with groupChangeObservers := s.groupChangeObservers.insert token observer } observer)
            other = if other = token then observer.asObject else s.objectOf other := by
        intro other
        rw [objectOf, hobservers]
        exact objectOf_insert s.groupChangeObservers s.recipientMap token observer other
      refine ⟨fun other r hother => ?_, fun r hr => ?_⟩
      · rw [hobject] at hother
        rw [hrecipients]
        split_ifs at hother
        · exact .inr hother
        · exact .inl (hs.recipient other r hother)
      · rcases (hrecipients r).1 hr with hr | hr
        · obtain ⟨other, hother⟩ := hs.observer r hr
          have hne : other ≠ token := by
            rintro rfl
            rw [hnone] at hother
            cases hother
          exact ⟨other, by rw [hobject, if_neg hne, hother]⟩
        · exact ⟨token, by rw [hobject, if_pos rfl, hr]⟩

/-- After a removal the maps agree exactly if no second token had the remote object of the token. -/
theorem corresponds_unRegister_iff (hs : Corresponds s) :
    Corresponds (s.unRegisterAppGroupCallBack token).2 ↔ OneToken s (.unRegister token) := by
  obtain ⟨hobjects, hrecipients⟩ := unRegister_spec s token
  refine ⟨fun hafter r hr other hother => ?_, fun hone => ⟨fun other r hother => ?_,
    fun r hr => ?_⟩⟩
  · by_contra hne
    have hkept := hafter.recipient other r (by rw [hobjects, if_neg hne, hother])
    exact ((hrecipients r).1 hkept).2 hr
  · rw [hobjects] at hother
    split_ifs at hother with heq
    exact (hrecipients r).2 ⟨hs.recipient other r hother, fun hr => heq (hone r hr other hother)⟩
  · obtain ⟨hr, hother⟩ := (hrecipients r).1 hr
    obtain ⟨other, hobject⟩ := hs.observer r hr
    have hne : other ≠ token := by
      rintro rfl
      exact hother hobject
    exact ⟨other, by rw [hobjects, if_neg hne, hobject]⟩

theorem corresponds_died (hs : Corresponds s)
    (hone : ∀ token, s.objectOf token = some r → ∀ other, s.objectOf other = some r →
      other = token) :
    Corresponds (s.onObserverDiedInner r) ∧
      ∀ token, (s.onObserverDiedInner r).objectOf token ≠ some r := by
  obtain ⟨hobjects, hrecipients⟩ := onObserverDiedInner_spec s r
  -- The observers after the death are those of other objects.
  have hkept : ∀ token r', (s.onObserverDiedInner r).objectOf token = some r' ↔
      s.objectOf token = some r' ∧ r' ≠ r := by
    intro token r'
    obtain ⟨hnone, hsame⟩ | ⟨gone, hgone, hobject⟩ := hobjects
    · rw [hsame]
      refine ⟨fun h => ⟨h, ?_⟩, And.left⟩
      rintro rfl
      exact hnone token h
    · rw [hobject]
      split_ifs with heq
      · rw [heq, hgone]
        simp [eq_comm]
      · refine ⟨fun h => ⟨h, ?_⟩, And.left⟩
        rintro rfl
        exact heq (hone gone hgone token h)
  refine ⟨⟨fun token r' htoken => ?_, fun r' hr' => ?_⟩, fun token htoken => ?_⟩
  · obtain ⟨hobject, hne⟩ := (hkept token r').1 htoken
    exact (hrecipients r').2 ⟨hs.recipient token r' hobject, hne⟩
  · obtain ⟨hr', hne⟩ := (hrecipients r').1 hr'
    obtain ⟨token, hobject⟩ := hs.observer r' hr'
    exact ⟨token, (hkept token r').2 ⟨hobject, hne⟩⟩
  · exact ((hkept token r).1 htoken).2 rfl

/-- A death leaves an observer of the object behind if two tokens had it. -/
theorem died_leaves {other : ℕ} (htoken : s.objectOf token = some r) (hother : s.objectOf other = some r)
    (hne : other ≠ token) : ∃ left, (s.onObserverDiedInner r).objectOf left = some r := by
  obtain ⟨hnone, -⟩ | ⟨gone, -, hobject⟩ := (onObserverDiedInner_spec s r).1
  · exact absurd htoken (hnone token)
  · by_cases heq : gone = token
    · exact ⟨other, by rw [hobject, if_neg (heq ▸ hne), hother]⟩
    · exact ⟨token, by rw [hobject, if_neg (Ne.symm heq), htoken]⟩

/-- A step from maps that agree leaves them in agreement exactly if it meets the condition. -/
theorem agrees_iff (hs : Corresponds s) (op : ObserverOp) : Agrees s op ↔ OneToken s op := by
  cases op with
  | register token observer =>
    refine ⟨fun _ => trivial, fun _ => ⟨corresponds_register hs observer, ?_⟩⟩
    rintro r handlerInited ⟨⟩
  | unRegister token =>
    refine ⟨fun h => (corresponds_unRegister_iff hs).1 h.corresponds,
      fun h => ⟨(corresponds_unRegister_iff hs).2 h, ?_⟩⟩
    rintro r handlerInited ⟨⟩
  | died remote handlerInited =>
    cases remote with
    | none =>
      refine ⟨fun _ => trivial, fun _ => ⟨hs, ?_⟩⟩
      rintro r handlerInited ⟨⟩
    | some r =>
      refine ⟨fun h token htoken => ?_, fun hone => ?_⟩
      · have hgone : ∀ left, (s.onObserverDied (some r) handlerInited).objectOf left ≠ some r :=
          h.died r handlerInited rfl
        cases handlerInited with
        | false => exact absurd htoken (hgone token)
        | true =>
          refine ⟨rfl, fun other hother => ?_⟩
          by_contra hne
          obtain ⟨left, hleft⟩ := died_leaves htoken hother hne
          exact hgone left hleft
      · cases handlerInited with
        | true =>
          obtain ⟨hafter, hgone⟩ := corresponds_died hs fun token htoken => (hone token htoken).2
          refine ⟨hafter, ?_⟩
          rintro r' handlerInited ⟨⟩
          exact hgone
        | false =>
          -- The death is not processed, so the object had no observer.
          refine ⟨hs, ?_⟩
          rintro r' handlerInited ⟨⟩ token htoken
          exact absurd (hone token htoken).1 Bool.false_ne_true

theorem corresponds_of_run (hrun : Run OneToken s) : Corresponds s := by
  induction hrun with
  | new => exact corresponds_new
  | step op _ allowed ih => exact ((agrees_iff ih op).2 allowed).corresponds

/-- In runs whose steps all meet the condition the maps agree in every state, and a death that meets it
leaves no observer of the object. -/
theorem corresponds_run (hrun : Run OneToken s) : Corresponds s ∧ ∀ r handlerInited,
    OneToken s (.died (some r) handlerInited) →
      ∀ token, (s.apply (.died (some r) handlerInited)).objectOf token ≠ some r := by
  have hs := corresponds_of_run hrun
  refine ⟨hs, fun r handlerInited hone => ?_⟩
  exact ((agrees_iff hs _).2 hone).died r handlerInited rfl

/-- One remote object is registered under one token and dies. -/
theorem corresponds_run_diedOnce : ∃ s : ObserverRegistry, s.objectOf 1 = some 7 ∧ Corresponds s ∧
    ∀ token, (s.apply (.died (some 7) true)).objectOf token ≠ some 7 := by
  have hrun : Run OneToken (apply {} (.register 1 (some ⟨some 7⟩))) := .step _ .new trivial
  have hobject : ∀ other, (apply {} (.register 1 (some ⟨some 7⟩))).objectOf other =
      if other = 1 then some 7 else none := by
    intro other
    exact objectOf_insert {} _ 1 ⟨some 7⟩ other
  obtain ⟨hs, hdied⟩ := corresponds_run hrun
  refine ⟨_, hobject 1, hs, hdied 7 true fun token htoken => ⟨rfl, fun other hother => ?_⟩⟩
  rw [hobject] at htoken hother
  split_ifs at htoken hother with heq heq'
  rw [heq, heq']

/-- A remote object is registered under two tokens, and one of them leaves: the other observer has no
death recipient. -/
theorem recipient_lost : ∃ s : ObserverRegistry, Run (fun _ _ => True) s ∧ s.objectOf 2 = some 7 ∧
    7 ∉ s.recipientMap := by
  refine ⟨((apply {} (.register 1 (some ⟨some 7⟩))).apply (.register 2 (some ⟨some 7⟩))).apply
    (.unRegister 1), .step _ (.step _ (.step _ .new trivial) trivial) trivial, ?_⟩
  decide

end ObserverRegistry
end DeviceUsageStats
