import Mathlib.Tactic

/-! The first elements of a list in descending order of a key: which elements they leave behind, and how
many elements a key is above or below. -/

namespace TopElements

theorem exists_map_of_perm {α β : Type*} {f : α → β} {l : List α} {image : List β}
    (h : image.Perm (l.map f)) : ∃ l' : List α, l'.Perm l ∧ image = l'.map f := by
  induction image generalizing l with
  | nil => exact ⟨[], by simpa using h.length_eq.symm, rfl⟩
  | cons b image ih =>
    obtain ⟨a, ha, rfl⟩ := List.mem_map.1 (h.mem_iff.1 (List.mem_cons_self ..))
    obtain ⟨before, after, rfl⟩ := List.append_of_mem ha
    have hmiddle : (before ++ a :: after).Perm (a :: (before ++ after)) := List.perm_middle
    have hrest : image.Perm ((before ++ after).map f) :=
      (h.trans (hmiddle.map f)).cons_inv
    obtain ⟨l', hperm, rfl⟩ := ih hrest
    exact ⟨a :: l', (hperm.cons a).trans hmiddle.symm, rfl⟩

variable {α : Type*} {key : α → ℤ} {l : List α} {n : ℕ} {x y : α}

theorem key_le_of_mem (hl : l.Pairwise fun a b => key b ≤ key a) (hx : x ∈ l.take n)
    (hy : y ∈ l.drop n) : key y ≤ key x := by
  rw [← List.take_append_drop n l, List.pairwise_append] at hl
  exact hl.2.2 x hx y hy

/-- The `n` greatest elements of a list by a key, in descending order; all of it if it is shorter. -/
structure IsTop (key : α → ℤ) (n : ℕ) (all top : List α) : Prop where
  sorted : top.Pairwise fun a b => key b ≤ key a
  length : top.length = min n all.length
  rest : ∃ rest, (top ++ rest).Perm all ∧ ∀ x ∈ top, ∀ y ∈ rest, key y ≤ key x

theorem isTop_take {all : List α} (hperm : l.Perm all)
    (hl : l.Pairwise fun a b => key b ≤ key a) : IsTop key n all (l.take n) where
  sorted := hl.sublist (List.take_sublist n l)
  length := by rw [List.length_take, hperm.length_eq]
  rest := ⟨l.drop n, by rwa [List.take_append_drop], fun _ hx _ hy => key_le_of_mem hl hx hy⟩

namespace IsTop

variable {all top : List α}

theorem mem (h : IsTop key n all top) (hx : x ∈ top) : x ∈ all := by
  obtain ⟨rest, hperm, -⟩ := h.rest
  exact hperm.mem_iff.1 (List.mem_append_left rest hx)

theorem nodup_map {β : Type*} {f : α → β} (h : IsTop key n all top) (hall : (all.map f).Nodup) :
    (top.map f).Nodup := by
  obtain ⟨rest, hperm, -⟩ := h.rest
  have hboth := (hperm.map f).nodup_iff.2 hall
  rw [List.map_append] at hboth
  exact hboth.of_append_left

/-- What is left out is no greater than anything in the top, and is left out only if the top is full. -/
theorem omitted (h : IsTop key n all top) (hy : y ∈ all) (hnot : y ∉ top) :
    (∀ x ∈ top, key y ≤ key x) ∧ top.length = n := by
  obtain ⟨rest, hperm, hle⟩ := h.rest
  have hmem : y ∈ rest := (List.mem_append.1 (hperm.mem_iff.2 hy)).resolve_left hnot
  refine ⟨fun x hx => hle x hx y hmem, ?_⟩
  have hlength := hperm.length_eq
  rw [List.length_append] at hlength
  have hpos := List.length_pos_of_mem hmem
  have := h.length
  omega

end IsTop

variable [DecidableEq α] [Fintype α]

theorem card_above_lt (hl : l.Pairwise fun a b => key b ≤ key a) (hall : ∀ a, a ∈ l)
    (hx : x ∈ l.take n) : (Finset.univ.filter fun y => key x < key y).card < n := by
  have hsub : (Finset.univ.filter fun y => key x < key y) ⊆ (l.take n).toFinset.erase x := by
    intro y hy
    have hlt := (Finset.mem_filter.1 hy).2
    rw [Finset.mem_erase, List.mem_toFinset]
    refine ⟨fun heq => hlt.ne (by rw [heq]), ?_⟩
    have hmem := hall y
    rw [← List.take_append_drop n l, List.mem_append] at hmem
    exact hmem.resolve_right fun hdrop => (key_le_of_mem hl hx hdrop).not_gt hlt
  calc (Finset.univ.filter fun y => key x < key y).card
      ≤ ((l.take n).toFinset.erase x).card := Finset.card_le_card hsub
    _ < (l.take n).toFinset.card := Finset.card_erase_lt_of_mem (List.mem_toFinset.2 hx)
    _ ≤ (l.take n).length := List.toFinset_card_le _
    _ ≤ n := List.length_take_le n l

theorem le_card_others (hl : l.Pairwise fun a b => key b ≤ key a) (hnodup : l.Nodup)
    (hx : x ∈ l.drop n) : n ≤ (Finset.univ.filter fun y => y ≠ x ∧ key x ≤ key y).card := by
  have hlen : n ≤ l.length := by
    by_contra h
    rw [List.drop_of_length_le (not_le.1 h).le] at hx
    cases hx
  have hsub : (l.take n).toFinset ⊆ Finset.univ.filter fun y => y ≠ x ∧ key x ≤ key y := by
    intro y hy
    rw [List.mem_toFinset] at hy
    refine Finset.mem_filter.2 ⟨Finset.mem_univ y, fun heq => ?_, key_le_of_mem hl hy hx⟩
    exact List.disjoint_take_drop hnodup le_rfl (heq ▸ hy) hx
  have hcard := Finset.card_le_card hsub
  rwa [List.toFinset_card_of_nodup (hnodup.sublist (List.take_sublist n l)),
    List.length_take_of_le hlen] at hcard

end TopElements
