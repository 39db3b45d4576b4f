import Mathlib.Tactic

/-! A loop that carries a value from one visit to the next. A visit replaces the carried value by that of
the visited kind, where the kind has one, and writes it to the place of the kind: a kind without a value
gets what is left over from the visits before. -/

namespace CarriedFill

variable {ι V : Type*} [DecidableEq ι] (value : ι → Option V)

def carry (c : V) (j : ι) : V := (value j).getD c

/-- A visit of `j`, for the place of `i`. -/
def visit (i : ι) (cw : V × Option V) (j : ι) : V × Option V :=
  (carry value cw.1 j, if j = i then some (carry value cw.1 j) else cw.2)

/-- What the visits have written to the place of `i`. -/
def written (c : V) (l : List ι) (i : ι) : Option V := (l.foldl (visit value i) (c, none)).2

variable {value} {c m : V} {i j : ι}

theorem fst_foldl_visit (l : List ι) (cw : V × Option V) :
    (l.foldl (visit value i) cw).1 = l.foldl (carry value) cw.1 := by
  induction l generalizing cw with
  | nil => rfl
  | cons j l ih => exact ih _

theorem written_append_singleton (l : List ι) :
    written value c (l ++ [j]) i =
      if j = i then some (carry value (l.foldl (carry value) c) j) else written value c l i := by
  unfold written
  rw [List.foldl_append, List.foldl_cons, List.foldl_nil, visit, fst_foldl_visit]

theorem written_append_of_not_mem {l l' : List ι} (h : i ∉ l') :
    written value c (l ++ l') i = written value c l i := by
  induction l' using List.reverseRecOn with
  | nil => rw [List.append_nil]
  | append_singleton l' j ih =>
    rw [List.mem_append, List.mem_singleton, not_or] at h
    rw [← List.append_assoc, written_append_singleton, if_neg (Ne.symm h.2), ih h.1]

theorem exists_written (value : ι → Option V) (c : V) {l : List ι} (hmem : i ∈ l) :
    ∃ v, written value c l i = some v := by
  induction l using List.reverseRecOn with
  | nil => cases hmem
  | append_singleton l j ih =>
    rw [written_append_singleton]
    split_ifs with hj
    · exact ⟨_, rfl⟩
    · refine ih ((List.mem_append.1 hmem).resolve_right fun h => hj ?_)
      exact (List.mem_singleton.1 h).symm

omit [DecidableEq ι] in
theorem foldl_carry_eq {l : List ι} (h : ∀ j ∈ l, ∀ m ∈ value j, m = c) :
    l.foldl (carry value) c = c := by
  induction l with
  | nil => rfl
  | cons j l ih =>
    have hj : carry value c j = c := by
      cases hv : value j with
      | none => rw [carry, hv, Option.getD_none]
      | some m => rw [carry, hv, Option.getD_some, h j (List.mem_cons_self ..) m hv]
    rw [List.foldl_cons, hj]
    exact ih fun j hj => h j (List.mem_cons_of_mem _ hj)

theorem written_of_value (hi : value i = some m) {l : List ι} (hmem : i ∈ l) :
    written value c l i = some m := by
  induction l using List.reverseRecOn with
  | nil => cases hmem
  | append_singleton l j ih =>
    rw [written_append_singleton]
    split_ifs with hj
    · rw [carry, hj, hi, Option.getD_some]
    · refine ih ((List.mem_append.1 hmem).resolve_right fun h => hj ?_)
      exact (List.mem_singleton.1 h).symm

theorem written_of_none (hi : value i = none) {l : List ι} (h : ∀ j ∈ l, ∀ m ∈ value j, m = c)
    (hmem : i ∈ l) : written value c l i = some c := by
  induction l using List.reverseRecOn with
  | nil => cases hmem
  | append_singleton l j ih =>
    have hl : ∀ j ∈ l, ∀ m ∈ value j, m = c := fun j hj => h j (List.mem_append_left _ hj)
    rw [written_append_singleton, foldl_carry_eq hl]
    split_ifs with hj
    · rw [carry, hj, hi, Option.getD_none]
    · refine ih hl ((List.mem_append.1 hmem).resolve_right fun h => hj ?_)
      exact (List.mem_singleton.1 h).symm

theorem written_append_replicate (hi : value i = none) (l : List ι) {n : ℕ} (hn : 0 < n) :
    written value c (l ++ List.replicate n i) i = some (l.foldl (carry value) c) := by
  have hcarried : ∀ n, (List.replicate n i).foldl (carry value) (l.foldl (carry value) c) =
      l.foldl (carry value) c := fun n =>
    foldl_carry_eq fun j hj m hm => by
      rw [(List.mem_replicate.1 hj).2, hi] at hm
      cases hm
  obtain ⟨n, rfl⟩ := Nat.exists_eq_succ_of_ne_zero hn.ne'
  rw [List.replicate_succ', ← List.append_assoc, written_append_singleton, if_pos rfl,
    List.foldl_append, hcarried, carry, hi, Option.getD_none]

variable {l : List ι}

theorem perm_filter_replicate (l : List ι) (i : ι) :
    (l.filter (· ≠ i) ++ List.replicate (l.count i) i).Perm l := by
  have hkind : List.replicate (l.count i) i = l.filter (fun j => !decide (j ≠ i)) := by
    rw [← List.filter_eq]
    exact List.filter_congr fun j _ => by simp
  rw [hkind]
  exact List.filter_append_perm _ l

/-- In every order the place of a kind gets one value exactly if it is the kind's own, or the start value
where the kind has none and no kind has another. -/
theorem written_perm_iff (hmem : i ∈ l) (e : V) :
    (∀ l' : List ι, l'.Perm l → written value c l' i = some e) ↔
      (∀ m ∈ value i, m = e) ∧ (value i = none → e = c ∧ ∀ j ∈ l, ∀ m ∈ value j, m = c) := by
  have hcount : 0 < l.count i := List.count_pos_iff.2 hmem
  refine ⟨fun h => ⟨fun m hm => ?_, fun hi => ?_⟩, fun h l' hperm => ?_⟩
  · exact Option.some.inj ((written_of_value hm hmem).symm.trans (h l (.refl l)))
  · have hstart : e = c := by
      have hfirst := h (List.replicate (l.count i) i ++ l.filter (· ≠ i))
        (List.perm_append_comm.trans (perm_filter_replicate l i))
      rw [written_append_of_not_mem (by simp)] at hfirst
      have hreplicate := written_append_replicate (c := c) hi [] hcount
      rw [List.nil_append] at hreplicate
      exact Option.some.inj (hfirst.symm.trans hreplicate)
    refine ⟨hstart, fun j hj m hm => ?_⟩
    have hne : j ≠ i := fun heq => by rw [heq, hi] at hm; cases hm
    have hjmem : j ∈ l.filter (· ≠ i) := List.mem_filter.2 ⟨hj, by simpa using hne⟩
    -- the kind is visited last, right after the other
    have hlast := h ((l.filter (· ≠ i)).erase j ++ [j] ++ List.replicate (l.count i) i)
      (((List.perm_append_comm.trans (List.perm_cons_erase hjmem).symm).append_right _).trans
        (perm_filter_replicate l i))
    rw [written_append_replicate hi _ hcount, List.foldl_append, List.foldl_cons, List.foldl_nil,
      carry, hm, Option.getD_some, hstart] at hlast
    exact Option.some.inj hlast
  · have hmem' : i ∈ l' := hperm.mem_iff.2 hmem
    cases hi : value i with
    | some m => rw [written_of_value hi hmem', h.1 m hi]
    | none =>
      obtain ⟨rfl, hother⟩ := h.2 hi
      exact written_of_none hi (fun j hj => hother j (hperm.mem_iff.1 hj)) hmem'

end CarriedFill
