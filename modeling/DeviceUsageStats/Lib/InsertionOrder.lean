import Mathlib.Tactic
import Mathlib.Data.List.InsertIdx

/-! Lists that grow by insertions. Each element is paired with the number of the insertion that brought it,
so that equal elements can be told apart; ties are kept if elements of one key stand in the order of their
numbers. -/

namespace InsertionOrder

variable {α κ : Type*}

theorem pairwise_insertIdx_iff {R : α → α → Prop} {l : List α} {k : ℕ} {x : α} (hk : k ≤ l.length) :
    (l.insertIdx k x).Pairwise R ↔
      l.Pairwise R ∧ (∀ y ∈ l.take k, R y x) ∧ ∀ y ∈ l.drop k, R x y := by
  induction l generalizing k with
  | nil =>
    obtain rfl : k = 0 := by simpa using hk
    simp
  | cons z l ih =>
    cases k with
    | zero =>
      rw [List.insertIdx_zero, List.pairwise_cons, List.take_zero, List.drop_zero]
      refine ⟨fun h => ⟨h.2, by simp, h.1⟩, fun h => ⟨h.2.2, h.1⟩⟩
    | succ k =>
      have hk' : k ≤ l.length := by simpa using hk
      rw [List.insertIdx_succ_cons, List.pairwise_cons, List.pairwise_cons, ih hk', List.take_succ_cons,
        List.drop_succ_cons, List.forall_mem_cons]
      have hmem : (∀ y ∈ l.insertIdx k x, R z y) ↔ R z x ∧ ∀ y ∈ l, R z y := by
        simp only [List.mem_insertIdx hk', forall_eq_or_imp]
      rw [hmem]
      tauto

variable (place : List α → α → ℕ)

/-- The list after the insertions, with the numbers of the insertions. -/
def numbered (as : List α) : List (α × ℕ) :=
  as.zipIdx.foldl (fun l x => l.insertIdx (place (l.map Prod.fst) x.1) x) []

theorem numbered_snoc (as : List α) (a : α) :
    numbered place (as ++ [a]) = (numbered place as).insertIdx
      (place ((numbered place as).map Prod.fst) a) (a, as.length) := by
  unfold numbered
  rw [List.zipIdx_append, List.zipIdx_singleton, List.foldl_append, Nat.zero_add]
  rfl

theorem map_fst_numbered (as : List α) :
    (numbered place as).map Prod.fst = as.foldl (fun l a => l.insertIdx (place l a) a) [] := by
  induction as using List.reverseRecOn with
  | nil => rfl
  | append_singleton as a ih =>
    rw [numbered_snoc, List.map_insertIdx, ih, List.foldl_append]
    rfl

/-- Elements of one key stand in the order in which they were inserted. -/
def TiesKept (key : α → κ) (as : List α) : Prop :=
  (numbered place as).Pairwise fun x y => key x.1 = key y.1 → x.2 < y.2

instance (key : α → κ) [DecidableEq κ] (as : List α) : Decidable (TiesKept place key as) :=
  inferInstanceAs (Decidable ((numbered place as).Pairwise fun x y => key x.1 = key y.1 → x.2 < y.2))

variable {place}

theorem numbered_perm (hplace : ∀ l a, place l a ≤ l.length) (as : List α) :
    (numbered place as).Perm as.zipIdx := by
  induction as using List.reverseRecOn with
  | nil => exact .nil
  | append_singleton as a ih =>
    have hle : place ((numbered place as).map Prod.fst) a ≤ (numbered place as).length := by
      simpa using hplace ((numbered place as).map Prod.fst) a
    rw [numbered_snoc, List.zipIdx_append, List.zipIdx_singleton, Nat.zero_add]
    exact (List.perm_insertIdx _ _ hle).trans ((ih.cons _).trans (List.perm_append_singleton _ _).symm)

theorem snd_lt_of_mem_numbered (hplace : ∀ l a, place l a ≤ l.length) {as : List α} {x : α × ℕ}
    (hx : x ∈ numbered place as) : x.2 < as.length := by
  have hmem := (numbered_perm hplace as).mem_iff.1 hx
  have hlt := (List.mem_zipIdx hmem).2.1
  omega

/-- An insertion keeps the ties if no element of its key stands behind its place. -/
theorem tiesKept_snoc_iff (hplace : ∀ l a, place l a ≤ l.length) (key : α → κ) (as : List α) (a : α) :
    TiesKept place key (as ++ [a]) ↔ TiesKept place key as ∧
      ∀ b ∈ ((numbered place as).map Prod.fst).drop (place ((numbered place as).map Prod.fst) a),
        key b ≠ key a := by
  have hle : place ((numbered place as).map Prod.fst) a ≤ (numbered place as).length := by
    simpa using hplace ((numbered place as).map Prod.fst) a
  unfold TiesKept
  rw [numbered_snoc, pairwise_insertIdx_iff hle, ← List.map_drop, List.forall_mem_map]
  refine and_congr_right fun _ => ⟨fun h y hy hkey => ?_, fun h => ⟨fun y hy _ => ?_, fun y hy hkey => ?_⟩⟩
  · have hlt := snd_lt_of_mem_numbered hplace (List.mem_of_mem_drop hy)
    exact (h.2 y hy hkey.symm).not_gt hlt
  · exact snd_lt_of_mem_numbered hplace (List.mem_of_mem_take hy)
  · exact absurd hkey.symm (h y hy)

end InsertionOrder
