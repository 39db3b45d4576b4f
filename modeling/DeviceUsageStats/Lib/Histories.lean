import Mathlib.Tactic

/-! Histories as lists that grow at the end: each element with its neighbours, the elements since the last one
of a kind, and those that exceed all before them. -/

namespace Histories

variable {α : Type*}

/-! ### Neighbours -/

def spans (l : List α) : List (α × α) := l.zip l.tail

def preceded (l : List α) : List (α × Option α) := l.zip (none :: l.map some)

theorem spans_cons_cons (x y : α) (l : List α) : spans (x :: y :: l) = (x, y) :: spans (y :: l) := rfl

theorem spans_snoc (l : List α) (x : α) :
    spans (l ++ [x]) = spans l ++ (l.getLast?.map fun y => (y, x)).toList := by
  induction l with
  | nil => rfl
  | cons y l ih =>
    cases l with
    | nil => rfl
    | cons z l =>
      rw [List.cons_append, List.cons_append, spans_cons_cons, ← List.cons_append, ih, spans_cons_cons,
        List.getLast?_cons_cons]
      rfl

theorem preceded_snoc (l : List α) (x : α) : preceded (l ++ [x]) = preceded l ++ [(x, l.getLast?)] := by
  have hshift : ∀ o : Option α, (l ++ [x]).zip (o :: (l ++ [x]).map some) =
      l.zip (o :: l.map some) ++ [(x, (l.getLast?).or o)] := fun o => by
    induction l generalizing o with
    | nil => rfl
    | cons y l ih =>
      rw [List.cons_append, List.map_cons, List.zip_cons_cons, ih, List.map_cons, List.zip_cons_cons,
        List.getLast?_cons, List.cons_append]
      cases l.getLast? <;> rfl
  unfold preceded
  rw [hshift, Option.or_none]

theorem mem_of_mem_spans {l : List α} {p : α × α} (h : p ∈ spans l) : p.1 ∈ l ∧ p.2 ∈ l :=
  ⟨(List.of_mem_zip h).1, List.mem_of_mem_tail (List.of_mem_zip h).2⟩

theorem pairwise_spans {R : α → α → Prop} (hrefl : ∀ x, R x x) {l : List α} (h : l.Pairwise R) :
    (spans l).Pairwise fun p q => R p.2 q.1 := by
  induction l with
  | nil => exact .nil
  | cons x l ih =>
    cases l with
    | nil => exact .nil
    | cons y l =>
      rw [spans_cons_cons, List.pairwise_cons]
      refine ⟨fun q hq => ?_, ih h.of_cons⟩
      rcases List.mem_cons.1 (mem_of_mem_spans hq).1 with hy | hl
      · rw [hy]
        exact hrefl y
      · exact (List.pairwise_cons.1 h.of_cons).1 q.1 hl

theorem spans_apart {R : α → α → Prop} (hrefl : ∀ x, R x x) {l : List α} (h : l.Pairwise R) {p q : α × α}
    (hp : p ∈ spans l) (hq : q ∈ spans l) (hne : p ≠ q) : R p.2 q.1 ∨ R q.2 p.1 := by
  have hsymm : Std.Symm fun p q : α × α => R p.2 q.1 ∨ R q.2 p.1 := ⟨fun _ _ => Or.symm⟩
  have hapart : (spans l).Pairwise fun p q => R p.2 q.1 ∨ R q.2 p.1 :=
    (pairwise_spans hrefl h).imp Or.inl
  exact hapart.forall hp hq hne

/-! ### The elements since the last one of a kind -/

def sinceLast (p : α → Bool) (l : List α) : List α := (l.reverse.takeWhile fun x => !p x).reverse

theorem sinceLast_snoc (p : α → Bool) (l : List α) (x : α) :
    sinceLast p (l ++ [x]) = if p x then [] else sinceLast p l ++ [x] := by
  unfold sinceLast
  rw [List.reverse_append, List.reverse_singleton, List.singleton_append, List.takeWhile_cons]
  cases p x with
  | true => rfl
  | false => simp

/-! ### The elements that exceed all before them -/

section Exceeding

variable [LinearOrder α]

def exceeding (l : List α) : ℕ := l.zipIdx.countP fun x => decide (∀ y ∈ l.take x.2, y < x.1)

theorem exceeding_snoc (l : List α) (x : α) :
    exceeding (l ++ [x]) = exceeding l + if ∀ y ∈ l, y < x then 1 else 0 := by
  unfold exceeding
  rw [List.zipIdx_append, List.zipIdx_singleton, List.countP_append, List.countP_singleton, Nat.zero_add,
    List.take_left]
  congr 1
  · refine List.countP_congr fun y hy => ?_
    have hlt := (List.mem_zipIdx hy).2.1
    rw [List.take_append_of_le_length (by omega)]
  · simp only [decide_eq_true_eq]

theorem isGreatest_snoc {l : List α} {m : α} (h : IsGreatest {y | y ∈ l} m) (x : α) :
    IsGreatest {y | y ∈ l ++ [x]} (max m x) := by
  refine ⟨?_, fun y hy => ?_⟩
  · rcases max_choice m x with hmax | hmax
    · rw [hmax]
      exact List.mem_append_left _ h.1
    · rw [hmax]
      exact List.mem_append_right _ (List.mem_singleton_self x)
  · rcases List.mem_append.1 hy with hy | hy
    · exact (h.2 hy).trans (le_max_left m x)
    · rw [List.mem_singleton.1 hy]
      exact le_max_right m x

theorem forall_lt_iff {l : List α} {m : α} (h : IsGreatest {y | y ∈ l} m) (x : α) :
    (∀ y ∈ l, y < x) ↔ m < x :=
  ⟨fun hall => hall m h.1, fun hlt _ hy => (h.2 hy).trans_lt hlt⟩

end Exceeding

end Histories
