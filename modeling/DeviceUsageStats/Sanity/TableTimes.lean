import DeviceUsageStats.Sanity.EventTables

/-! The names of the package tables of a type. After the cache is read from the file and the oldest
tables over the cap are dropped, both list the newest tables. The renames of `RenewTableTime` go
through the start times in ascending order: a later table never stands in the way of an earlier clock,
and a table stays where it is if the later clock's name is taken. -/

namespace DeviceUsageStats

/-- The start times that the cap leaves. -/
def newestTables (i : IntervalType) (tables : List ℤ) : List ℤ :=
  tables.drop (tables.length - maxFilesEveryIntervalType i)

theorem length_newestTables_le (i : IntervalType) (tables : List ℤ) :
    (newestTables i tables).length ≤ maxFilesEveryIntervalType i := by
  unfold newestTables
  rw [List.length_drop]
  omega

namespace Tables

variable {Row : Type} {tables : Tables Row} {timeDiff t x : ℤ}

theorem not_mem_iff : x ∉ tables ↔ tables[x]? = none := by
  rw [Std.TreeMap.mem_iff_isSome_getElem?, Option.not_isSome_iff_eq_none]

/-- What `RenewTableTime` does with one start time. -/
def renew (timeDiff : ℤ) (tables : Tables Row) (tableTime : ℤ) : Tables Row :=
  if tableTime + timeDiff < 0 then (tables.drop tableTime).1
  else (tables.rename tableTime (tableTime + timeDiff)).1

theorem renew_of_taken (h0 : 0 ≤ t + timeDiff) (h : t + timeDiff ∈ tables) :
    renew timeDiff tables t = tables := by
  rw [Std.TreeMap.mem_iff_isSome_getElem?, Option.isSome_iff_exists] at h
  obtain ⟨rows, h⟩ := h
  unfold renew rename
  rw [if_neg (not_lt.2 h0), h]
  cases tables[t]? <;> rfl

theorem getElem?_renew_of_free (ht : t ∈ tables) (h : 0 ≤ t + timeDiff → t + timeDiff ∉ tables)
    (x : ℤ) : (renew timeDiff tables t)[x]? =
      if x = t + timeDiff ∧ 0 ≤ x then tables[t]? else if x = t then none else tables[x]? := by
  unfold renew
  by_cases h0 : t + timeDiff < 0
  · have hnot : ¬ (x = t + timeDiff ∧ 0 ≤ x) := by omega
    rw [if_pos h0, getElem?_drop, if_neg hnot]
  · have hfree := h (not_lt.1 h0)
    have hne : t + timeDiff ≠ t := fun heq => hfree (by rwa [heq])
    rw [Std.TreeMap.mem_iff_isSome_getElem?, Option.isSome_iff_exists] at ht
    obtain ⟨rows, ht⟩ := ht
    unfold rename
    rw [if_neg h0, ht, not_mem_iff.1 hfree]
    simp only [if_pos (not_lt.1 h0)]
    by_cases hx : x = t + timeDiff
    · subst hx
      simp [not_lt.1 h0]
    · rw [if_neg fun h => hx h.1, Std.TreeMap.getElem?_insert,
        if_neg fun h => hx (Std.LawfulEqCmp.eq_of_compare h).symm]
      exact getElem?_drop tables t x

/-- An earlier clock: each table takes the place of one that has already gone. -/
theorem getElem?_foldl_renew_of_neg (hd : timeDiff < 0) (l : List ℤ) (hl : l.Pairwise (· < ·))
    (tables : Tables Row) (hmem : ∀ y ∈ l, y ∈ tables)
    (hfree : ∀ y ∈ l, y + timeDiff ∈ tables → y + timeDiff ∈ l) (x : ℤ) :
    (l.foldl (renew timeDiff) tables)[x]? =
      if x - timeDiff ∈ l ∧ 0 ≤ x then tables[x - timeDiff]?
      else if x ∈ l then none else tables[x]? := by
  induction l generalizing tables with
  | nil => simp
  | cons t l ih =>
    obtain ⟨hlt, hl⟩ := List.pairwise_cons.1 hl
    have ht := hmem t (List.mem_cons_self ..)
    -- the first start time is the smallest, so nothing stands at its new place
    have hnew : t + timeDiff ∉ tables := fun h => by
      rcases List.mem_cons.1 (hfree t (List.mem_cons_self ..) h) with heq | hin
      · omega
      · have := hlt _ hin
        omega
    have hstep := getElem?_renew_of_free ht fun _ => hnew
    have hmem' : ∀ y ∈ l, y ∈ renew timeDiff tables t := fun y hy => by
      have hty := hlt y hy
      rw [Std.TreeMap.mem_iff_isSome_getElem?, hstep, if_neg (by omega), if_neg (by omega),
        ← Std.TreeMap.mem_iff_isSome_getElem?]
      exact hmem y (List.mem_cons_of_mem _ hy)
    have hfree' : ∀ y ∈ l, y + timeDiff ∈ renew timeDiff tables t → y + timeDiff ∈ l := by
      intro y hy h
      have hty := hlt y hy
      rw [Std.TreeMap.mem_iff_isSome_getElem?, hstep, if_neg (by omega)] at h
      split_ifs at h with hyt
      · cases h
      · rw [← Std.TreeMap.mem_iff_isSome_getElem?] at h
        exact (List.mem_cons.1 (hfree y (List.mem_cons_of_mem _ hy) h)).resolve_left hyt
    rw [List.foldl_cons, ih hl _ hmem' hfree', hstep, hstep]
    by_cases hx : x = t + timeDiff
    · subst hx
      have hnot : t + timeDiff ∉ l := fun h => absurd (hlt _ h) (by omega)
      have hnot' : t ∉ l := fun h => lt_irrefl t (hlt t h)
      rw [not_mem_iff] at hnew
      simp [hnot, hnot', hnew]
    · have hne : x - timeDiff ≠ t := fun h => hx (by omega)
      have hne' : x - timeDiff ∈ l → x - timeDiff ≠ t + timeDiff := fun h => by
        have := hlt _ h
        omega
      have hself : x = t → x ∉ l := fun h hx => absurd (hlt x hx) (by omega)
      grind

/-- A later clock: a table stays if the name it should get is taken, the others move. -/
theorem getElem?_foldl_renew_of_pos (hd : 0 < timeDiff) (l : List ℤ) (hl : l.Pairwise (· < ·))
    (tables : Tables Row) (hmem : ∀ y ∈ l, y ∈ tables) (x : ℤ) :
    (l.foldl (renew timeDiff) tables)[x]? =
      if x ∈ l then (if 0 ≤ x + timeDiff ∧ x + timeDiff ∈ tables then tables[x]? else none)
      else if x - timeDiff ∈ l ∧ 0 ≤ x ∧ x ∉ tables then tables[x - timeDiff]?
      else tables[x]? := by
  induction l generalizing tables with
  | nil => simp
  | cons t l ih =>
    obtain ⟨hlt, hl⟩ := List.pairwise_cons.1 hl
    have ht := hmem t (List.mem_cons_self ..)
    have hnot : t ∉ l := fun h => lt_irrefl t (hlt t h)
    have hold : x - timeDiff ∈ l → x ≠ t := fun h heq => by
      have := hlt _ h
      omega
    have hsub : x - timeDiff = t ↔ x = t + timeDiff := by omega
    rw [List.foldl_cons]
    by_cases htaken : 0 ≤ t + timeDiff ∧ t + timeDiff ∈ tables
    · rw [renew_of_taken htaken.1 htaken.2,
        ih hl tables fun y hy => hmem y (List.mem_cons_of_mem _ hy)]
      grind
    · have hfree : 0 ≤ t + timeDiff → t + timeDiff ∉ tables := fun h0 h => htaken ⟨h0, h⟩
      have hstep := getElem?_renew_of_free ht hfree
      have hne : t + timeDiff ≠ t := by omega
      have hstay : ∀ y : ℤ, y ∈ renew timeDiff tables t ↔
          y = t + timeDiff ∧ 0 ≤ y ∨ y ≠ t ∧ y ∈ tables := fun y => by
        rw [Std.TreeMap.mem_iff_isSome_getElem?, hstep]
        rw [Std.TreeMap.mem_iff_isSome_getElem?] at ht ⊢
        split_ifs with h₁ h₂
        · exact iff_of_true ht (.inl h₁)
        · subst h₂
          exact iff_of_false Bool.false_ne_true fun h => h.elim h₁ fun h => h.1 rfl
        · exact ⟨fun h => .inr ⟨h₂, h⟩, fun h => (h.resolve_left h₁).2⟩
      have hmem' : ∀ y ∈ l, y ∈ renew timeDiff tables t := fun y hy =>
        (hstay y).2 (.inr ⟨(hlt y hy).ne', hmem y (List.mem_cons_of_mem _ hy)⟩)
      rw [ih hl _ hmem', hstep, hstep]
      simp only [hstay]
      have hfar : x ∈ l → x + timeDiff ≠ t ∧ x + timeDiff ≠ t + timeDiff := fun h => by
        have := hlt x h
        omega
      have hnew : x - timeDiff ∈ l → x ≠ t + timeDiff := by
        intro h heq
        exact hnot (by rwa [heq, add_sub_cancel_right] at h)
      have htake : x = t + timeDiff → 0 ≤ x → x ∉ tables := fun h h0 => by
        rw [h] at h0 ⊢
        exact hfree h0
      grind

end Tables

namespace DatabaseState

variable {d : DatabaseState} {i : IntervalType} {x t : ℤ}

/-- The cache of a type lists its tables, and no more than the cap. -/
structure Matches (d : DatabaseState) (i : IntervalType) : Prop where
  exact : d.sortedTableArray i = (d.packageTables i).keys
  capped : (d.sortedTableArray i).length ≤ maxFilesEveryIntervalType i

theorem mem_newestTables {l : List ℤ} (hl : l.Pairwise (· < ·)) :
    x ∈ newestTables i l ↔ x ∈ l ∧ x ∉ l.take (l.length - maxFilesEveryIntervalType i) := by
  unfold newestTables
  constructor
  · intro h
    exact ⟨List.mem_of_mem_drop h, fun h' =>
      List.disjoint_take_drop (hl.imp ne_of_lt) le_rfl h' h⟩
  · rintro ⟨h, hnot⟩
    rw [← List.take_append_drop (l.length - maxFilesEveryIntervalType i) l, List.mem_append] at h
    exact h.resolve_left hnot

/-- A cache that lists the tables drops the oldest over the cap, from the file as well. -/
theorem deleteExcessiveTableData_newest (h : d.sortedTableArray i = (d.packageTables i).keys) :
    Matches (d.deleteExcessiveTableData i) i ∧
      ((d.deleteExcessiveTableData i).packageTables i).keys =
        newestTables i (d.packageTables i).keys ∧
      ∀ x ∈ newestTables i (d.packageTables i).keys,
        ((d.deleteExcessiveTableData i).packageTables i)[x]? = (d.packageTables i)[x]? := by
  obtain ⟨harrays, htables⟩ := deleteExcessiveTableData_spec d i
  have hsorted := keys_sorted (d.packageTables i)
  rw [h] at harrays htables
  have hkeys : ((d.deleteExcessiveTableData i).packageTables i).keys =
      newestTables i (d.packageTables i).keys := by
    refine keys_eq_of_sorted hsorted.drop fun x => ?_
    rw [Std.TreeMap.mem_iff_isSome_getElem?, htables, mem_newestTables hsorted,
      Std.TreeMap.mem_keys, Std.TreeMap.mem_iff_isSome_getElem?]
    split_ifs with hx
    · exact iff_of_false Bool.false_ne_true fun h => h.2 hx.2
    · exact ⟨fun h => ⟨h, fun h' => hx ⟨rfl, h'⟩⟩, And.left⟩
  have harray : (d.deleteExcessiveTableData i).sortedTableArray i =
      newestTables i (d.packageTables i).keys := by
    rw [harrays, Function.update_self]
    rfl
  refine ⟨⟨harray.trans hkeys.symm, ?_⟩, hkeys, fun x hx => ?_⟩
  · rw [harray]
    exact length_newestTables_le i _
  · rw [htables, if_neg fun h => ((mem_newestTables hsorted).1 hx).2 h.2]

/-- The file is read into the cache first; without a table the cache keeps what it had. -/
theorem handle_excess_newest
    (h : (d.packageTables i).keys = [] → d.sortedTableArray i = []) :
    Matches ((d.handleTableInfo i).deleteExcessiveTableData i) i ∧
      (((d.handleTableInfo i).deleteExcessiveTableData i).packageTables i).keys =
        newestTables i (d.packageTables i).keys ∧
      ∀ x ∈ newestTables i (d.packageTables i).keys,
        (((d.handleTableInfo i).deleteExcessiveTableData i).packageTables i)[x]? =
          (d.packageTables i)[x]? := by
  obtain ⟨harrays, htables⟩ := handleTableInfo_spec d i
  have harray : (d.handleTableInfo i).sortedTableArray i =
      ((d.handleTableInfo i).packageTables i).keys := by
    rw [harrays, htables, Function.update_self]
    split_ifs with hnil
    · rw [hnil, h hnil]
    · rfl
  have hspec := deleteExcessiveTableData_newest harray
  rwa [htables] at hspec

theorem Matches.of_sameType {d' : DatabaseState} (h : Matches d i) (hs : SameType i d d') :
    Matches d' i where
  exact := by rw [hs.arrays, hs.tables, h.exact]
  capped := by
    rw [hs.arrays]
    exact h.capped

/-- The loop of `RenewTableTime` over the start times of a type. -/
theorem packageTables_foldl_renewPackageTable (timeDiff : ℤ) (l : List ℤ) (d : DatabaseState) :
    (l.foldl (renewPackageTable timeDiff i) d).packageTables i =
      l.foldl (Tables.renew timeDiff) (d.packageTables i) := by
  induction l generalizing d with
  | nil => rfl
  | cons t l ih =>
    have hstep : (renewPackageTable timeDiff i d t).packageTables i =
        Tables.renew timeDiff (d.packageTables i) t := by
      unfold renewPackageTable Tables.renew
      split_ifs <;> exact Function.update_self ..
    rw [List.foldl_cons, List.foldl_cons, ih, hstep]

/-- `RenewTableTime` of a type whose cache lists its tables. -/
theorem renewPackageTables_newest (h : d.sortedTableArray i = (d.packageTables i).keys)
    (timeDiff : ℤ) :
    let renewed := (d.packageTables i).keys.foldl (Tables.renew timeDiff) (d.packageTables i)
    ((renewPackageTables timeDiff d i).packageTables i).keys = newestTables i renewed.keys ∧
      (∀ x ∈ newestTables i renewed.keys,
        ((renewPackageTables timeDiff d i).packageTables i)[x]? = renewed[x]?) ∧
      Matches (renewPackageTables timeDiff d i) i := by
  unfold renewPackageTables
  rw [h]
  split_ifs with hnil
  · have hnone : newestTables i [] = [] := List.drop_nil
    simp only
    rw [hnil, List.foldl_nil, hnil, hnone]
    refine ⟨rfl, fun x hx => absurd hx List.not_mem_nil, h, ?_⟩
    rw [h, hnil]
    exact Nat.zero_le _
  · have hloop := packageTables_foldl_renewPackageTable (i := i) timeDiff (d.packageTables i).keys d
    simp only
    set d₁ := (d.packageTables i).keys.foldl (renewPackageTable timeDiff i) d
    have hspec := handle_excess_newest
      (d := { d₁ with sortedTableArray := Function.update d₁.sortedTableArray i [] }) (i := i)
      fun _ => Function.update_self ..
    simp only [hloop] at hspec
    exact ⟨hspec.2.1, hspec.2.2, hspec.1⟩

end DatabaseState
end DeviceUsageStats
