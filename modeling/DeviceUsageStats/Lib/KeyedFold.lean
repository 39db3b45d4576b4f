import Mathlib.Tactic

/-! Runs over a map whose every step reads and writes the entry of one key: an entry afterwards is the run
over the steps of its own key. -/

namespace KeyedFold

variable {α κ V : Type*} {cmp : κ → κ → Ordering}

/-- The step of `a` replaces the entry of `key a` by a function of that entry, and no other. -/
structure StepAt (key : α → κ) (f : Option V → α → Option V)
    (step : Std.TreeMap κ V cmp → α → Std.TreeMap κ V cmp) : Prop where
  own : ∀ m a, (step m a)[key a]? = f m[key a]? a
  other : ∀ m a k, key a ≠ k → (step m a)[k]? = m[k]?

variable {key : α → κ} {f : Option V → α → Option V}
  {step : Std.TreeMap κ V cmp → α → Std.TreeMap κ V cmp} [DecidableEq κ]

theorem StepAt.getElem?_foldl (h : StepAt key f step) (l : List α) (m : Std.TreeMap κ V cmp) (k : κ) :
    (l.foldl step m)[k]? = (l.filter (key · = k)).foldl f m[k]? := by
  induction l generalizing m with
  | nil => rfl
  | cons a l ih =>
    rw [List.foldl_cons, ih]
    by_cases hk : key a = k
    · subst hk
      rw [h.own, List.filter_cons_of_pos (by simp), List.foldl_cons]
    · rw [h.other m a k hk, List.filter_cons_of_neg (by simpa using hk)]

/-- Steps of other keys leave no trace in an entry. -/
theorem StepAt.getElem?_foldl_filter (h : StepAt key f step) (p : α → Bool) {k : κ}
    (hp : ∀ a, key a = k → p a = true) (l : List α) (m : Std.TreeMap κ V cmp) :
    ((l.filter p).foldl step m)[k]? = (l.foldl step m)[k]? := by
  rw [h.getElem?_foldl, h.getElem?_foldl, List.filter_filter]
  congr 1
  refine List.filter_congr fun a _ => ?_
  by_cases hk : key a = k
  · simp [hk, hp a hk]
  · simp [hk]

/-! ### Sums over the entries -/

/-- One sum for each key, over the values of the key, makes the sum over all values. -/
theorem sum_map_filter {M : Type*} [AddCommMonoid M] (key : α → κ) (g : α → M) {keys : List κ}
    (hkeys : keys.Nodup) (l : List α) (hl : ∀ a ∈ l, key a ∈ keys) :
    (keys.map fun k => ((l.filter (key · = k)).map g).sum).sum = (l.map g).sum := by
  induction l with
  | nil => simp
  | cons a l ih =>
    have hsplit : ∀ k, (((a :: l).filter (key · = k)).map g).sum =
        (if k = key a then g a else 0) + ((l.filter (key · = k)).map g).sum := by
      intro k
      by_cases hk : key a = k
      · simp [hk]
      · simp [hk, Ne.symm hk]
    have hone : (keys.map fun k => if k = key a then g a else 0).sum = g a := by
      rw [← List.sum_toFinset _ hkeys, Finset.sum_ite_eq',
        if_pos (List.mem_toFinset.2 (hl a (List.mem_cons_self ..)))]
    rw [List.map_congr_left fun k _ => hsplit k, List.sum_map_add, hone,
      ih fun b hb => hl b (List.mem_cons_of_mem _ hb), List.map_cons, List.sum_cons]

end KeyedFold
