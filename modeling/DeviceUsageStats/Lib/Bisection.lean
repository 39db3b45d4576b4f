import Mathlib.Tactic
import Mathlib.Data.List.GetD
import Mathlib.Data.List.InsertIdx

/-! Ranks in sorted lists. Every binary search over a sorted list computes the rank of its key, the
number of entries below it; a search is correct once its final bounds split the list at the key. -/

namespace Bisection

variable {α : Type*} [LinearOrder α] {a : List α} {x y d : α}

/-- The number of entries below `x`. -/
def rank (a : List α) (x : α) : ℕ := a.countP (· < x)

theorem rank_le_length (a : List α) (x : α) : rank a x ≤ a.length := List.countP_le_length

theorem rank_cons (z : α) (a : List α) (x : α) :
    rank (z :: a) x = rank a x + if z < x then 1 else 0 := by
  simp [rank, List.countP_cons]

theorem rank_eq_zero (h : ∀ z ∈ a, x ≤ z) : rank a x = 0 :=
  List.countP_eq_zero.2 fun z hz => by simpa using h z hz

theorem rank_mono (h : x ≤ y) : rank a x ≤ rank a y :=
  List.countP_mono_left fun z _ hz => by simpa using (of_decide_eq_true hz).trans_le h

theorem take_rank (ha : a.Pairwise (· ≤ ·)) : a.take (rank a x) = a.filter (· < x) := by
  induction a with
  | nil => rfl
  | cons z a ih =>
    obtain ⟨hz, ha⟩ := List.pairwise_cons.1 ha
    rw [rank_cons]
    by_cases hzx : z < x
    · simp [hzx, ih ha]
    · have hrest : ∀ w ∈ a, x ≤ w := fun w hw => (not_lt.1 hzx).trans (hz w hw)
      simp only [rank_eq_zero hrest, hzx, if_false, add_zero, List.take_zero]
      symm
      rw [List.filter_eq_nil_iff]
      intro w hw
      rcases List.mem_cons.1 hw with rfl | hw
      · simpa using hzx
      · simpa using hrest w hw

theorem drop_rank_map {β : Type*} {f : β → α} {l : List β} (hl : (l.map f).Pairwise (· ≤ ·))
    (x : α) : l.drop (rank (l.map f) x) = l.filter (x ≤ f ·) := by
  induction l with
  | nil => rfl
  | cons z l ih =>
    obtain ⟨hz, hl⟩ := List.pairwise_cons.1 hl
    rw [List.map_cons, rank_cons]
    by_cases hzx : f z < x
    · simp [hzx, ih hl, not_le.2 hzx]
    · have hrest : ∀ w ∈ l.map f, x ≤ w := fun w hw => (not_lt.1 hzx).trans (hz w hw)
      have hall : l.filter (x ≤ f ·) = l :=
        List.filter_eq_self.2 fun w hw => by simpa using hrest (f w) (List.mem_map_of_mem hw)
      simp [rank_eq_zero hrest, hzx, not_lt.1 hzx, hall]

theorem drop_rank (ha : a.Pairwise (· ≤ ·)) : a.drop (rank a x) = a.filter (x ≤ ·) := by
  have h := drop_rank_map (f := id) (l := a) (by rwa [List.map_id]) x
  rwa [List.map_id] at h

theorem mem_takeWhile_iff {p : α → Bool} (ha : a.Pairwise (· < ·)) :
    x ∈ a.takeWhile p ↔ x ∈ a ∧ ∀ y ∈ a, y ≤ x → p y = true := by
  induction a with
  | nil => simp
  | cons z a ih =>
    obtain ⟨hz, ha⟩ := List.pairwise_cons.1 ha
    cases hp : p z with
    | false =>
      rw [List.takeWhile_cons_of_neg (by simp [hp])]
      refine iff_of_false List.not_mem_nil fun ⟨hx, hall⟩ => ?_
      have hle : z ≤ x := (List.mem_cons.1 hx).elim (fun h => h.ge) fun h => (hz x h).le
      exact Bool.false_ne_true (hp.symm.trans (hall z (List.mem_cons_self ..) hle))
    | true =>
      rw [List.takeWhile_cons_of_pos hp, List.mem_cons, List.mem_cons, ih ha]
      constructor
      · rintro (rfl | ⟨hx, hall⟩)
        · refine ⟨.inl rfl, fun y hy hle => ?_⟩
          rcases List.mem_cons.1 hy with rfl | hy
          · exact hp
          · exact absurd hle (not_le.2 (hz y hy))
        · refine ⟨.inr hx, fun y hy hle => ?_⟩
          rcases List.mem_cons.1 hy with rfl | hy
          · exact hp
          · exact hall y hy hle
      · rintro ⟨rfl | hx, hall⟩
        · exact .inl rfl
        · exact .inr ⟨hx, fun y hy => hall y (List.mem_cons_of_mem _ hy)⟩

theorem lt_of_lt_rank (ha : a.Pairwise (· ≤ ·)) {i : ℕ} (hi : i < rank a x) : a.getD i d < x := by
  have hlen : i < (a.take (rank a x)).length := by
    rw [List.length_take]
    exact lt_min hi (hi.trans_le (rank_le_length a x))
  have hmem : (a.take (rank a x))[i] ∈ a.filter (· < x) := take_rank ha ▸ List.getElem_mem hlen
  rw [List.getElem_take, List.mem_filter] at hmem
  rw [List.getD_eq_getElem _ _ (hi.trans_le (rank_le_length a x))]
  simpa using hmem.2

theorem le_of_rank_le (ha : a.Pairwise (· ≤ ·)) {i : ℕ} (hi : rank a x ≤ i) (hlen : i < a.length) :
    x ≤ a.getD i d := by
  obtain ⟨j, rfl⟩ := Nat.exists_eq_add_of_le hi
  have hj : j < (a.drop (rank a x)).length := by
    rw [List.length_drop]
    omega
  have hmem : (a.drop (rank a x))[j] ∈ a.filter (x ≤ ·) := drop_rank ha ▸ List.getElem_mem hj
  rw [List.getElem_drop, List.mem_filter] at hmem
  rw [List.getD_eq_getElem _ _ hlen]
  simpa using hmem.2

theorem getD_lt_iff (ha : a.Pairwise (· ≤ ·)) {i : ℕ} (hlen : i < a.length) :
    a.getD i d < x ↔ i < rank a x :=
  ⟨fun h => not_le.1 fun hle => (le_of_rank_le ha hle hlen).not_gt h, lt_of_lt_rank ha⟩

theorem getD_mono (ha : a.Pairwise (· ≤ ·)) {i j : ℕ} (hij : i ≤ j) (hj : j < a.length) :
    a.getD i d ≤ a.getD j d := by
  rw [List.getD_eq_getElem _ _ hj, List.getD_eq_getElem _ _ (hij.trans_lt hj)]
  rcases hij.lt_or_eq with hlt | rfl
  · exact List.pairwise_iff_getElem.1 ha i j _ _ hlt
  · exact le_rfl

/-- Bounds that split the list at the key determine its rank. -/
theorem rank_eq_of_bounds (ha : a.Pairwise (· ≤ ·)) {k : ℕ} (hk : k ≤ a.length)
    (hlo : ∀ i < k, a.getD i d < x) (hhi : ∀ i, k ≤ i → i < a.length → x ≤ a.getD i d) :
    rank a x = k := by
  refine le_antisymm (not_lt.1 fun hlt => ?_) (not_lt.1 fun hlt => ?_)
  · exact absurd (lt_of_lt_rank (d := d) ha hlt)
      (not_lt.2 (hhi k le_rfl (hlt.trans_le (rank_le_length a x))))
  · exact absurd (hlo _ hlt) (not_lt.2 (le_of_rank_le ha le_rfl (hlt.trans_le hk)))

theorem rank_filter_lt (h : x ≤ y) : rank (a.filter (· < y)) x = rank a x := by
  unfold rank
  rw [List.countP_filter]
  refine List.countP_congr fun z _ => ?_
  simpa using fun hz : z < x => hz.trans_le h

theorem rank_eq_length_filter (a : List α) (x : α) : rank a x = (a.filter (· < x)).length :=
  List.countP_eq_length_filter

theorem getD_filter_lt (ha : a.Pairwise (· ≤ ·)) {i : ℕ} (hi : i < rank a x) :
    (a.filter (· < x)).getD i d = a.getD i d := by
  simp only [← take_rank ha, List.getD_eq_getElem?_getD, List.getElem?_take_of_lt hi]

theorem getD_strictMono (ha : a.Pairwise (· < ·)) {i j : ℕ} (hij : i < j) (hj : j < a.length) :
    a.getD i d < a.getD j d := by
  rw [List.getD_eq_getElem _ _ hj, List.getD_eq_getElem _ _ (hij.trans hj)]
  exact List.pairwise_iff_getElem.1 ha i j _ _ hij

theorem getD_mem {i : ℕ} (hi : i < rank a x) : a.getD i d ∈ a := by
  rw [List.getD_eq_getElem _ _ (hi.trans_le (rank_le_length a x))]
  exact List.getElem_mem _

theorem filter_lt_eq_map_range (ha : a.Pairwise (· ≤ ·)) (x d : α) :
    a.filter (· < x) = (List.range (rank a x)).map (a.getD · d) := by
  refine List.ext_getElem ?_ fun j h₁ h₂ => ?_
  · rw [List.length_map, List.length_range, rank_eq_length_filter]
  · rw [List.length_map, List.length_range] at h₂
    rw [List.getElem_map, List.getElem_range, ← getD_filter_lt ha h₂, List.getD_eq_getElem _ _ h₁]

theorem exists_getD_of_lt (ha : a.Pairwise (· ≤ ·)) {y : α} (hy : y ∈ a) (hyx : y < x) (d : α) :
    ∃ j < rank a x, a.getD j d = y := by
  have hmem : y ∈ a.filter (· < x) := List.mem_filter.2 ⟨hy, by simpa using hyx⟩
  rw [filter_lt_eq_map_range ha x d] at hmem
  obtain ⟨j, hj, heq⟩ := List.mem_map.1 hmem
  exact ⟨j, List.mem_range.1 hj, heq⟩

theorem mem_drop_length_sub_iff (ha : a.Pairwise (· < ·)) (n : ℕ) {y : α} :
    y ∈ a.drop (a.length - n) ↔ y ∈ a ∧ a.countP (y < ·) < n := by
  induction a with
  | nil => simp
  | cons z a ih =>
    obtain ⟨hz, ha⟩ := List.pairwise_cons.1 ha
    have hcount : a.countP (z < ·) = a.length :=
      List.countP_eq_length.2 fun w hw => by simpa using hz w hw
    have hcons : (z :: a).countP (y < ·) = a.countP (y < ·) + if y < z then 1 else 0 := by
      simp [List.countP_cons]
    rw [hcons, List.length_cons]
    by_cases hn : a.length < n
    · rw [Nat.sub_eq_zero_of_le hn, List.drop_zero, List.mem_cons]
      refine ⟨fun h => ⟨h, ?_⟩, And.left⟩
      rcases h with rfl | hy
      · simpa [hcount] using hn
      · have hle := List.countP_le_length (p := (y < ·)) (l := a)
        rw [if_neg (hz y hy).le.not_gt]
        omega
    · rw [show a.length + 1 - n = a.length - n + 1 by omega, List.drop_succ_cons, ih ha, List.mem_cons]
      by_cases hy : y ∈ a
      · simp [hy, (hz y hy).le.not_gt]
      · rw [or_iff_left hy]
        refine ⟨fun h => absurd h.1 hy, fun h => ?_⟩
        obtain ⟨rfl, hlt⟩ := h
        rw [hcount] at hlt
        omega

theorem rank_add_one {a : List ℤ} (ha : a.Pairwise (· < ·)) (x : ℤ) :
    rank a (x + 1) = rank a x + if x ∈ a then 1 else 0 := by
  induction a with
  | nil => simp [rank]
  | cons z a ih =>
    obtain ⟨hz, ha⟩ := List.pairwise_cons.1 ha
    rw [rank_cons, rank_cons, ih ha]
    by_cases hzx : z = x
    · subst hzx
      have hnot : z ∉ a := fun h => (hz z h).false
      simp [hnot]
    · have hlt : z < x + 1 ↔ z < x := by omega
      simp only [hlt, List.mem_cons, Ne.symm hzx, false_or]
      omega

theorem getD_rank_eq_iff {a : List ℤ} (ha : a.Pairwise (· < ·)) {x d : ℤ}
    (h : rank a x < a.length) : a.getD (rank a x) d = x ↔ x ∈ a := by
  have hle : a.Pairwise (· ≤ ·) := ha.imp le_of_lt
  constructor
  · intro heq
    rw [List.getD_eq_getElem _ _ h] at heq
    exact heq ▸ List.getElem_mem h
  · intro hmem
    refine le_antisymm ?_ (le_of_rank_le hle le_rfl h)
    have hlt : rank a x < rank a (x + 1) := by
      rw [rank_add_one ha, if_pos hmem]
      omega
    exact Int.lt_add_one_iff.1 (lt_of_lt_rank hle hlt)

theorem insertIdx_rank_sorted (ha : a.Pairwise (· ≤ ·)) :
    (a.insertIdx (rank a x) x).Pairwise (· ≤ ·) := by
  induction a with
  | nil => simp [rank]
  | cons z a ih =>
    obtain ⟨hz, ha'⟩ := List.pairwise_cons.1 ha
    rw [rank_cons]
    by_cases hzx : z < x
    · rw [if_pos hzx, List.insertIdx_succ_cons]
      refine List.pairwise_cons.2 ⟨fun w hw => ?_, ih ha'⟩
      rcases List.eq_or_mem_of_mem_insertIdx hw with rfl | hw
      · exact hzx.le
      · exact hz w hw
    · have hrest : ∀ w ∈ a, x ≤ w := fun w hw => (not_lt.1 hzx).trans (hz w hw)
      rw [if_neg hzx, rank_eq_zero hrest, List.insertIdx_zero]
      refine List.pairwise_cons.2 ⟨fun w hw => ?_, ha⟩
      rcases List.mem_cons.1 hw with rfl | hw
      · exact not_lt.1 hzx
      · exact hrest w hw

end Bisection
