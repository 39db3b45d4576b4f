import Mathlib.Tactic

/-! Updates that insert where they match nothing. A value replaces every row of its identity; one
without such a row is collected and the collected values are appended after the loop. -/

namespace Upsert

variable {Row ι κ : Type*} [DecidableEq ι] [DecidableEq κ] (ident : Row → ι)

def step (rows : List Row × List Row) (v : Row) : List Row × List Row :=
  if rows.1.any (ident · = ident v) then
    (rows.1.map fun row => if ident row = ident v then v else row, rows.2)
  else (rows.1, rows.2 ++ [v])

/-- The value of a row's identity, or the row. -/
def replace (values : List Row) (row : Row) : Row :=
  (values.find? (ident · = ident row)).getD row

def fresh (rows values : List Row) : List Row :=
  values.filter fun v => !rows.any (ident · = ident v)

def upsert (rows values : List Row) : List Row :=
  rows.map (replace ident values) ++ fresh ident rows values

variable {ident}

theorem ident_replace (values : List Row) (row : Row) :
    ident (replace ident values row) = ident row := by
  unfold replace
  cases h : values.find? (ident · = ident row) with
  | none => rfl
  | some v => simpa using List.find?_some h

/-- With one value for each identity the order of the values does not matter. -/
theorem foldl_step {values : List Row} (h : (values.map ident).Nodup)
    (rows inserted : List Row) :
    values.foldl (step ident) (rows, inserted) =
      (rows.map (replace ident values), inserted ++ fresh ident rows values) := by
  induction values generalizing rows inserted with
  | nil =>
    have hid : replace ident [] = id := rfl
    rw [hid, List.map_id]
    simp [fresh]
  | cons v values ih =>
    rw [List.map_cons, List.nodup_cons] at h
    have hv : values.find? (ident · = ident v) = none :=
      List.find?_eq_none.2 fun w hw heq => by
        rw [← of_decide_eq_true heq] at h
        exact h.1 (List.mem_map_of_mem hw)
    rw [List.foldl_cons, step]
    split_ifs with hany
    · rw [ih h.2]
      have hany' : ∀ w : Row, (rows.map fun row => if ident row = ident v then v else row).any
          (ident · = ident w) = rows.any (ident · = ident w) := fun w => by
        rw [List.any_map]
        congr 1
        funext row
        simp only [Function.comp_apply]
        split_ifs with hrow
        · rw [hrow]
        · rfl
      refine Prod.ext ?_ ?_
      · simp only [List.map_map]
        refine List.map_congr_left fun row _ => ?_
        simp only [Function.comp_apply, replace]
        by_cases hrow : ident row = ident v
        · rw [if_pos hrow, hv, hrow, List.find?_cons_of_pos (by simp)]
          rfl
        · rw [if_neg hrow, List.find?_cons_of_neg (by simpa using Ne.symm hrow)]
      · simp only [fresh, hany', List.filter_cons, hany]
        simp
    · rw [ih h.2]
      have hany : rows.any (ident · = ident v) = false := by simpa using hany
      refine Prod.ext ?_ ?_
      · refine List.map_congr_left fun row hrow => ?_
        have hne : ident v ≠ ident row := fun heq => by
          rw [List.any_eq_false] at hany
          exact hany row hrow (by simp [heq])
        simp only [replace]
        rw [List.find?_cons_of_neg (by simpa using hne)]
      · simp only [fresh, List.filter_cons, hany, List.append_assoc]
        simp

/-- The first row of a key is the first old row of the key, with its new value, or else the first
value of the key. -/
theorem find?_upsert (key : ι → κ) (k : κ) (rows values : List Row) :
    (upsert ident rows values).find? (fun row => key (ident row) = k) =
      ((rows.find? fun row => key (ident row) = k).map (replace ident values)).or
        (values.find? fun row => key (ident row) = k) := by
  have hmap : (rows.map (replace ident values)).find? (fun row => key (ident row) = k) =
      (rows.find? fun row => key (ident row) = k).map (replace ident values) := by
    rw [List.find?_map]
    congr 2
    funext row
    simp [ident_replace]
  rw [upsert, List.find?_append, hmap]
  cases h : rows.find? fun row => key (ident row) = k with
  | some row => rfl
  | none =>
    rw [Option.map_none, Option.none_or, Option.none_or, fresh, List.find?_filter]
    refine List.find?_congr fun v _ => ?_
    by_cases hv : key (ident v) = k
    · have hnot : rows.any (ident · = ident v) = false := by
        rw [List.any_eq_false]
        intro row hrow heq
        have := List.find?_eq_none.1 h row hrow
        simp [of_decide_eq_true heq, hv] at this
      simp [hv, hnot]
    · simp [hv]

theorem mem_of_mem_upsert {rows values : List Row} {row : Row} (h : row ∈ upsert ident rows values) :
    row ∈ rows ∨ row ∈ values := by
  rcases List.mem_append.1 h with h | h
  · obtain ⟨old, hold, rfl⟩ := List.mem_map.1 h
    unfold replace
    cases hv : values.find? (ident · = ident old) with
    | none => exact .inl hold
    | some v => exact .inr (List.mem_of_find?_eq_some hv)
  · exact .inr (List.mem_filter.1 h).1

theorem find?_of_nodup {key : Row → κ} {values : List Row} (h : (values.map key).Nodup) {v : Row}
    (hv : v ∈ values) : (values.find? fun row => key row = key v) = some v := by
  induction values with
  | nil => cases hv
  | cons w values ih =>
    rw [List.map_cons, List.nodup_cons] at h
    rcases List.mem_cons.1 hv with rfl | hmem
    · exact List.find?_cons_of_pos (by simp)
    · have hne : key w ≠ key v := fun heq => h.1 (heq ▸ List.mem_map_of_mem hmem)
      rw [List.find?_cons_of_neg (by simpa using hne)]
      exact ih h.2 hmem

theorem flatMap_of_nodup {β : Type*} {key : Row → κ} {values : List Row}
    (h : (values.map key).Nodup) {v : Row} (hv : v ∈ values) (g : Row → List β) :
    (values.flatMap fun w => if key w = key v then g w else []) = g v := by
  induction values with
  | nil => cases hv
  | cons w values ih =>
    rw [List.map_cons, List.nodup_cons] at h
    rw [List.flatMap_cons]
    rcases List.mem_cons.1 hv with rfl | hmem
    · have hrest : (values.flatMap fun w => if key w = key v then g w else []) = [] := by
        rw [List.flatMap_eq_nil_iff]
        intro w hw
        have hne : key w ≠ key v := fun heq => h.1 (heq ▸ List.mem_map_of_mem hw)
        exact if_neg hne
      rw [if_pos rfl, hrest, List.append_nil]
    · have hne : key w ≠ key v := fun heq => h.1 (heq ▸ List.mem_map_of_mem hmem)
      rw [if_neg hne, List.nil_append]
      exact ih h.2 hmem

theorem upsert_self {values : List Row} (h : (values.map ident).Nodup) :
    upsert ident values values = values := by
  have hreplace : values.map (replace ident values) = values := by
    rw [List.map_congr_left (g := id), List.map_id]
    intro v hv
    rw [replace, find?_of_nodup h hv]
    rfl
  have hfresh : fresh ident values values = [] := by
    rw [fresh, List.filter_eq_nil_iff]
    intro v hv hany
    have hown : values.any (ident · = ident v) = true := List.any_eq_true.2 ⟨v, hv, by simp⟩
    simp [hown] at hany
  rw [upsert, hreplace, hfresh, List.append_nil]

theorem nodup_upsert {rows values : List Row} (hrows : (rows.map ident).Nodup)
    (hvalues : (values.map ident).Nodup) : ((upsert ident rows values).map ident).Nodup := by
  have hold : (rows.map (replace ident values)).map ident = rows.map ident := by
    rw [List.map_map]
    exact List.map_congr_left fun row _ => ident_replace values row
  have hfresh : (fresh ident rows values).map ident |>.Nodup :=
    hvalues.sublist (List.filter_sublist.map ident)
  rw [upsert, List.map_append, hold, List.nodup_append']
  refine ⟨hrows, hfresh, fun x hx hx' => ?_⟩
  obtain ⟨row, hrow, rfl⟩ := List.mem_map.1 hx
  obtain ⟨v, hv, heq⟩ := List.mem_map.1 hx'
  have hnot := (List.mem_filter.1 hv).2
  rw [Bool.not_eq_true', List.any_eq_false] at hnot
  exact hnot row hrow (by simp [heq])

theorem filter_upsert_of_mem {rows values : List Row} (hrows : (rows.map ident).Nodup)
    (hvalues : (values.map ident).Nodup) {v : Row} (hv : v ∈ values) :
    (upsert ident rows values).filter (ident · = ident v) = [v] := by
  have hnodup := nodup_upsert hrows hvalues
  have hmem : v ∈ upsert ident rows values := by
    by_cases h : ∃ row ∈ rows, ident row = ident v
    · obtain ⟨row, hrow, heq⟩ := h
      refine List.mem_append_left _ (List.mem_map.2 ⟨row, hrow, ?_⟩)
      rw [replace, heq, find?_of_nodup hvalues hv]
      rfl
    · refine List.mem_append_right _ (List.mem_filter.2 ⟨hv, ?_⟩)
      rw [Bool.not_eq_true', List.any_eq_false]
      exact fun row hrow heq => h ⟨row, hrow, of_decide_eq_true heq⟩
  generalize upsert ident rows values = l at hnodup hmem
  induction l with
  | nil => cases hmem
  | cons row l ih =>
    rw [List.map_cons, List.nodup_cons] at hnodup
    rcases List.mem_cons.1 hmem with rfl | hmem
    · rw [List.filter_cons_of_pos (by simp), List.filter_eq_nil_iff.2]
      exact fun w hw heq => hnodup.1 (of_decide_eq_true heq ▸ List.mem_map_of_mem hw)
    · rw [List.filter_cons_of_neg, ih hnodup.2 hmem]
      exact fun heq => hnodup.1 (of_decide_eq_true heq ▸ List.mem_map_of_mem hmem)

theorem filter_upsert_of_not_mem (p : ι → Bool) {rows values : List Row}
    (h : ∀ v ∈ values, p (ident v) = false) :
    (upsert ident rows values).filter (fun row => p (ident row)) =
      rows.filter fun row => p (ident row) := by
  have hfresh : (fresh ident rows values).filter (fun row => p (ident row)) = [] :=
    List.filter_eq_nil_iff.2 fun v hv => by simp [h v (List.mem_filter.1 hv).1]
  rw [upsert, List.filter_append, hfresh, List.append_nil, List.filter_map]
  have hsame : rows.filter ((fun row => p (ident row)) ∘ replace ident values) =
      rows.filter fun row => p (ident row) :=
    List.filter_congr fun row _ => congrArg p (ident_replace values row)
  rw [hsame]
  refine List.map_congr_left (g := id) (fun row hrow => ?_) |>.trans (List.map_id _)
  have hnone : values.find? (ident · = ident row) = none :=
    List.find?_eq_none.2 fun v hv heq => by
      have := h v hv
      rw [of_decide_eq_true heq, (List.mem_filter.1 hrow).2] at this
      cases this
  rw [replace, hnone]
  rfl

theorem upsert_upsert (rows values : List Row) (h : (values.map ident).Nodup) :
    upsert ident (upsert ident rows values) values = upsert ident rows values := by
  have hreplace : ∀ row ∈ upsert ident rows values, replace ident values row = row := by
    intro row hrow
    have hvalue : ∀ v ∈ values, replace ident values v = v := fun v hv => by
      rw [replace, find?_of_nodup h hv]
      rfl
    rcases List.mem_append.1 hrow with hold | hfresh
    · obtain ⟨old, -, rfl⟩ := List.mem_map.1 hold
      cases hfind : values.find? (ident · = ident old) with
      | none =>
        have hsame : replace ident values old = old := by rw [replace, hfind]; rfl
        rw [hsame, hsame]
      | some v =>
        have hv : replace ident values old = v := by rw [replace, hfind]; rfl
        rw [hv]
        exact hvalue v (List.mem_of_find?_eq_some hfind)
    · exact hvalue row (List.mem_filter.1 hfresh).1
  have hfresh : fresh ident (upsert ident rows values) values = [] := by
    refine List.filter_eq_nil_iff.2 fun v hv hnot => ?_
    rw [Bool.not_eq_true', List.any_eq_false] at hnot
    by_cases hrow : ∃ row ∈ rows, ident row = ident v
    · obtain ⟨row, hrow, heq⟩ := hrow
      refine hnot (replace ident values row) (List.mem_append_left _ (List.mem_map_of_mem hrow)) ?_
      simp [ident_replace, heq]
    · refine hnot v (List.mem_append_right _ (List.mem_filter.2 ⟨hv, ?_⟩)) (by simp)
      rw [Bool.not_eq_true', List.any_eq_false]
      exact fun row hrow' heq => hrow ⟨row, hrow', of_decide_eq_true heq⟩
  rw [upsert, hfresh, List.append_nil]
  exact (List.map_congr_left (g := id) hreplace).trans (List.map_id _)

end Upsert
