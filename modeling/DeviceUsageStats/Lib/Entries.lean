import Mathlib.Tactic

/-! Loops over the entries of an ordered map. A loop that overwrites every entry in key order is
`mapEntries`, one that drops the entries of a predicate is `eraseEntries`; the rules read one key of
the result. -/

namespace Entries

variable {κ V : Type*} {cmp : κ → κ → Ordering} [Std.TransCmp cmp]

def mapEntries (f : κ → V → V) (m : Std.TreeMap κ V cmp) : Std.TreeMap κ V cmp :=
  m.toList.foldl (fun m' entry => m'.insert entry.1 (f entry.1 entry.2)) m

def eraseEntries (p : κ → V → Bool) (m : Std.TreeMap κ V cmp) : Std.TreeMap κ V cmp :=
  m.toList.foldl (fun m' entry => if p entry.1 entry.2 then m'.erase entry.1 else m') m

variable [Std.LawfulEqCmp cmp]

theorem getElem?_foldl_insert_of_not_mem (g : κ × V → V) (l : List (κ × V)) (k : κ)
    (m : Std.TreeMap κ V cmp) (h : ∀ entry ∈ l, entry.1 ≠ k) :
    (l.foldl (fun m' entry => m'.insert entry.1 (g entry)) m)[k]? = m[k]? := by
  induction l generalizing m with
  | nil => rfl
  | cons entry l ih =>
    rw [List.foldl_cons, ih _ fun e he => h e (List.mem_cons_of_mem _ he)]
    have hne : entry.1 ≠ k := h entry (List.mem_cons_self ..)
    simp [Std.TreeMap.getElem?_insert, hne]

theorem getElem?_foldl_insert_of_mem (g : κ × V → V) (l : List (κ × V))
    (hl : (l.map Prod.fst).Nodup) (m : Std.TreeMap κ V cmp) {entry : κ × V} (h : entry ∈ l) :
    (l.foldl (fun m' e => m'.insert e.1 (g e)) m)[entry.1]? = some (g entry) := by
  induction l generalizing m with
  | nil => cases h
  | cons e l ih =>
    rw [List.map_cons, List.nodup_cons] at hl
    rw [List.foldl_cons]
    rcases List.mem_cons.1 h with rfl | hmem
    · rw [getElem?_foldl_insert_of_not_mem g l entry.1]
      · simp
      · exact fun e' he' heq => hl.1 (List.mem_map.2 ⟨e', he', heq⟩)
    · exact ih hl.2 _ hmem

theorem nodup_keys_toList (m : Std.TreeMap κ V cmp) : (m.toList.map Prod.fst).Nodup := by
  rw [List.nodup_iff_pairwise_ne, List.pairwise_map]
  refine m.distinct_keys_toList.imp fun {a b} hab heq => hab ?_
  rw [heq]
  exact Std.ReflCmp.compare_self

theorem map_filter_toList [DecidableEq κ] (m : Std.TreeMap κ V cmp) (k : κ) :
    (m.toList.filter (·.1 = k)).map Prod.snd = (m[k]?).toList := by
  have hmem : ∀ p ∈ m.toList.filter (·.1 = k), p.1 = k ∧ m[k]? = some p.2 := by
    intro p hp
    obtain ⟨hin, hkey⟩ := List.mem_filter.1 hp
    have hkey : p.1 = k := of_decide_eq_true hkey
    exact ⟨hkey, hkey ▸ Std.TreeMap.mem_toList_iff_getElem?_eq_some.1 hin⟩
  cases hk : m[k]? with
  | none =>
    have hnil : m.toList.filter (·.1 = k) = [] :=
      List.eq_nil_iff_forall_not_mem.2 fun p hp => by cases hk.symm.trans (hmem p hp).2
    rw [hnil]
    rfl
  | some e =>
    have hnodup : (m.toList.filter (·.1 = k)).Nodup :=
      ((nodup_keys_toList m).of_map _).filter _
    have hall : ∀ p ∈ m.toList.filter (·.1 = k), p = (k, e) := fun p hp =>
      Prod.ext (hmem p hp).1 (Option.some.inj ((hmem p hp).2.symm.trans hk))
    have hin : (k, e) ∈ m.toList.filter (·.1 = k) :=
      List.mem_filter.2 ⟨Std.TreeMap.mem_toList_iff_getElem?_eq_some.2 hk, decide_eq_true rfl⟩
    have hlength := List.length_pos_of_mem hin
    rw [List.eq_replicate_of_mem hall, List.nodup_replicate] at hnodup
    rw [List.eq_replicate_of_mem hall, show (m.toList.filter (·.1 = k)).length = 1 by omega]
    rfl

theorem getElem?_mapEntries (f : κ → V → V) (m : Std.TreeMap κ V cmp) (k : κ) :
    (mapEntries f m)[k]? = (m[k]?).map (f k) := by
  unfold mapEntries
  cases hk : m[k]? with
  | none =>
    rw [getElem?_foldl_insert_of_not_mem (fun entry => f entry.1 entry.2), hk, Option.map_none]
    rintro ⟨k', v⟩ hmem rfl
    rw [Std.TreeMap.mem_toList_iff_getElem?_eq_some.1 hmem] at hk
    cases hk
  | some v =>
    exact getElem?_foldl_insert_of_mem (fun entry => f entry.1 entry.2) m.toList
      (nodup_keys_toList m) m (Std.TreeMap.mem_toList_iff_getElem?_eq_some.2 hk)

theorem getElem?_foldl_erase_of_not_mem (p : κ × V → Bool) (l : List (κ × V)) (k : κ)
    (m : Std.TreeMap κ V cmp) (h : ∀ entry ∈ l, p entry = true → entry.1 ≠ k) :
    (l.foldl (fun m' entry => if p entry then m'.erase entry.1 else m') m)[k]? = m[k]? := by
  induction l generalizing m with
  | nil => rfl
  | cons entry l ih =>
    rw [List.foldl_cons, ih _ fun e he => h e (List.mem_cons_of_mem _ he)]
    split_ifs with hp
    · have hne : entry.1 ≠ k := h entry (List.mem_cons_self ..) hp
      simp [Std.TreeMap.getElem?_erase, hne]
    · rfl

theorem getElem?_foldl_erase_of_mem (p : κ × V → Bool) (l : List (κ × V))
    (m : Std.TreeMap κ V cmp) {entry : κ × V} (h : entry ∈ l) (hp : p entry = true) :
    (l.foldl (fun m' e => if p e then m'.erase e.1 else m') m)[entry.1]? = none := by
  have hnone : ∀ (l : List (κ × V)) (m : Std.TreeMap κ V cmp), m[entry.1]? = none →
      (l.foldl (fun m' e => if p e then m'.erase e.1 else m') m)[entry.1]? = none := by
    intro l
    induction l with
    | nil => exact fun m hm => hm
    | cons e l ih =>
      intro m hm
      refine ih _ ?_
      beta_reduce
      split_ifs
      · rw [Std.TreeMap.getElem?_erase, hm, ite_self]
      · exact hm
  induction l generalizing m with
  | nil => cases h
  | cons e l ih =>
    rw [List.foldl_cons]
    rcases List.mem_cons.1 h with rfl | hmem
    · exact hnone l _ (by simp [hp])
    · exact ih _ hmem

theorem getElem?_eraseEntries (p : κ → V → Bool) (m : Std.TreeMap κ V cmp) (k : κ) :
    (eraseEntries p m)[k]? = (m[k]?).filter fun v => !p k v := by
  have hread : ∀ v, m[k]? = some v → p k v = true → (eraseEntries p m)[k]? = none :=
    fun v hk hp => getElem?_foldl_erase_of_mem (fun entry => p entry.1 entry.2) m.toList m
      (Std.TreeMap.mem_toList_iff_getElem?_eq_some.2 hk) hp
  have hkeep : (∀ v, m[k]? = some v → ¬ p k v = true) → (eraseEntries p m)[k]? = m[k]? := by
    intro h
    refine getElem?_foldl_erase_of_not_mem (fun entry => p entry.1 entry.2) m.toList k m ?_
    rintro ⟨k', v⟩ hmem hp rfl
    exact h v (Std.TreeMap.mem_toList_iff_getElem?_eq_some.1 hmem) hp
  cases hk : m[k]? with
  | none => rw [hkeep (by simp [hk]), hk, Option.filter_none]
  | some v =>
    by_cases hp : p k v = true
    · rw [hread v hk hp, Option.filter_some, if_neg]
      simpa using hp
    · rw [hkeep (by simpa [hk] using hp), hk, Option.filter_some, if_pos]
      simpa using hp

theorem getElem?_foldl_erase [DecidableEq κ] {α : Type*} (key : α → κ) (l : List α)
    (m : Std.TreeMap κ V cmp) (k : κ) :
    (l.foldl (fun m x => m.erase (key x)) m)[k]? = if k ∈ l.map key then none else m[k]? := by
  induction l generalizing m with
  | nil => simp
  | cons x l ih =>
    rw [List.foldl_cons, ih, Std.TreeMap.getElem?_erase]
    by_cases hk : k = key x
    · simp [hk]
    · have hne : ¬ cmp (key x) k = .eq := fun h => hk (Std.LawfulEqCmp.eq_of_compare h).symm
      simp [hk, hne]

theorem getElem?_foldl_insert [DecidableEq κ] {α : Type*} (key : α → κ) (g : α → V) (l : List α)
    (hl : (l.map key).Nodup) (m : Std.TreeMap κ V cmp) (k : κ) :
    (l.foldl (fun m x => m.insert (key x) (g x)) m)[k]? =
      ((l.find? (key · = k)).map g).or m[k]? := by
  induction l generalizing m with
  | nil => simp
  | cons x l ih =>
    rw [List.map_cons, List.nodup_cons] at hl
    rw [List.foldl_cons, ih hl.2, Std.TreeMap.getElem?_insert]
    by_cases hx : key x = k
    · subst hx
      have hnone : l.find? (key · = key x) = none :=
        List.find?_eq_none.2 fun y hy heq => by
          rw [← of_decide_eq_true heq] at hl
          exact hl.1 (List.mem_map_of_mem hy)
      rw [hnone, List.find?_cons_of_pos (by simp)]
      simp
    · rw [List.find?_cons_of_neg (by simpa using hx), if_neg]
      exact fun h => hx (Std.LawfulEqCmp.eq_of_compare h)

/-- A loop that inserts for some of the values: an entry is old or of one of them. -/
theorem getElem?_foldl_insertUnless [DecidableEq κ] {α : Type*} (key : α → κ) (g : α → V)
    (p : α → Bool) (l : List α) (m : Std.TreeMap κ V cmp) (k : κ) :
    (∀ v, (l.foldl (fun m x => if p x then m else m.insert (key x) (g x)) m)[k]? = some v →
      m[k]? = some v ∨ ∃ x ∈ l, key x = k ∧ p x = false ∧ g x = v) ∧
    ((m[k]?).isSome ∨ (∃ x ∈ l, key x = k ∧ p x = false) →
      ((l.foldl (fun m x => if p x then m else m.insert (key x) (g x)) m)[k]?).isSome) := by
  induction l generalizing m with
  | nil => exact ⟨fun v h => .inl h, fun h => h.elim id fun ⟨_, hx, _⟩ => by cases hx⟩
  | cons x l ih =>
    rw [List.foldl_cons]
    obtain ⟨hsome, hpresent⟩ := ih (if p x then m else m.insert (key x) (g x))
    cases hp : p x with
    | true =>
      rw [if_pos hp] at hsome hpresent
      rw [if_pos rfl]
      refine ⟨fun v hv => (hsome v hv).imp_right fun ⟨y, hy, h⟩ =>
        ⟨y, List.mem_cons_of_mem _ hy, h⟩, fun h => hpresent (h.imp_right ?_)⟩
      rintro ⟨y, hy, hkey, hnot⟩
      rcases List.mem_cons.1 hy with rfl | hy
      · rw [hp] at hnot
        cases hnot
      · exact ⟨y, hy, hkey, hnot⟩
    | false =>
      rw [if_neg (by simp [hp])] at hsome hpresent
      rw [if_neg Bool.false_ne_true]
      rw [Std.TreeMap.getElem?_insert] at hsome hpresent
      by_cases hx : cmp (key x) k = .eq
      · have hkey := Std.LawfulEqCmp.eq_of_compare hx
        rw [if_pos hx] at hsome hpresent
        refine ⟨fun v hv => ?_, fun _ => hpresent (.inl rfl)⟩
        rcases hsome v hv with hg | ⟨y, hy, h⟩
        · exact .inr ⟨x, List.mem_cons_self .., hkey, hp, Option.some.inj hg⟩
        · exact .inr ⟨y, List.mem_cons_of_mem _ hy, h⟩
      · rw [if_neg hx] at hsome hpresent
        refine ⟨fun v hv => (hsome v hv).imp_right fun ⟨y, hy, h⟩ =>
          ⟨y, List.mem_cons_of_mem _ hy, h⟩, fun h => hpresent (h.imp_right ?_)⟩
        rintro ⟨y, hy, hkey, hnot⟩
        rcases List.mem_cons.1 hy with rfl | hy
        · exact absurd (hkey ▸ Std.ReflCmp.compare_self) hx
        · exact ⟨y, hy, hkey, hnot⟩

theorem getElem?_foldl_modify [DecidableEq κ] {α : Type*} (key : α → κ) (f : α → V → V)
    (l : List α) (m : Std.TreeMap κ V cmp) (k : κ) :
    (l.foldl (fun m x => m.modify (key x) (f x)) m)[k]? =
      (m[k]?).map fun v => (l.filter (key · = k)).foldl (fun v x => f x v) v := by
  induction l generalizing m with
  | nil => simp
  | cons x l ih =>
    rw [List.foldl_cons, ih, Std.TreeMap.getElem?_modify]
    by_cases hx : key x = k
    · subst hx
      rw [if_pos Std.ReflCmp.compare_self, List.filter_cons_of_pos (by simp), Option.map_map]
      rfl
    · rw [if_neg fun h => hx (Std.LawfulEqCmp.eq_of_compare h),
        List.filter_cons_of_neg (by simpa using hx)]

theorem getElem?_foldl_insertIfNew [DecidableEq κ] {α : Type*} (key : α → κ) (g : α → V)
    (l : List α) (m : Std.TreeMap κ V cmp) (k : κ) :
    (l.foldl (fun m x => m.insertIfNew (key x) (g x)) m)[k]? =
      (m[k]?).or ((l.find? (key · = k)).map g) := by
  induction l generalizing m with
  | nil => simp
  | cons x l ih =>
    rw [List.foldl_cons, ih, Std.TreeMap.getElem?_insertIfNew]
    by_cases hx : key x = k
    · subst hx
      rw [List.find?_cons_of_pos (by simp)]
      cases hm : m[key x]? with
      | none =>
        have hnot : key x ∉ m := fun h => by
          rw [Std.TreeMap.mem_iff_isSome_getElem?, hm] at h
          cases h
        simp [hnot]
      | some v =>
        have hmem : key x ∈ m := by rw [Std.TreeMap.mem_iff_isSome_getElem?, hm]; rfl
        simp [hmem]
    · rw [List.find?_cons_of_neg (by simpa using hx), if_neg]
      exact fun h => hx (Std.LawfulEqCmp.eq_of_compare h.1)

/-! ### Scans -/

theorem le_foldl_iff {α β : Type*} [LE α] (f : β → Option α) (step : α → β → α)
    (hstep : ∀ least y x, x ≤ step least y ↔ x ≤ least ∧ ∀ v, f y = some v → x ≤ v)
    (l : List β) (a x : α) :
    x ≤ l.foldl step a ↔ x ≤ a ∧ ∀ y ∈ l, ∀ v, f y = some v → x ≤ v := by
  induction l generalizing a with
  | nil => simp
  | cons y l ih => rw [List.foldl_cons, ih, hstep, List.forall_mem_cons, and_assoc]

/-- A scan that sets a value when it finds something. -/
theorem foldl_set {α β : Type*} (p : β → Bool) (set : α) (step : α → β → α)
    (hstep : ∀ a y, step a y = if p y then set else a) (l : List β) (a : α) :
    l.foldl step a = if l.any p then set else a := by
  induction l generalizing a with
  | nil => rfl
  | cons y l ih =>
    rw [List.foldl_cons, ih, hstep, List.any_cons]
    cases p y <;> simp

end Entries
