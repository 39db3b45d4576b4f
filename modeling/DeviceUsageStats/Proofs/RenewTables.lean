import DeviceUsageStats.Sanity.TableTimes

/-! The shift of the package tables by a clock change. An earlier clock shifts every table; a later one
fails to rename a table onto a name that another table still holds. -/

namespace DeviceUsageStats

section Newest

variable {a newest : List ℤ} {cap : ℕ}

theorem drop_eq_of_greatest (ha : a.Pairwise (· < ·)) (hn : newest.Pairwise (· < ·))
    (hsub : ∀ x ∈ newest, x ∈ a) (hbelow : ∀ x ∈ a, x ∉ newest → ∀ y ∈ newest, x < y)
    (hcap : newest.length = cap ∨ newest.length ≤ cap ∧ ∀ x ∈ a, x ∈ newest) :
    a.drop (a.length - cap) = newest := by
  have hmem : ∀ x, x ∈ a ↔ x ∈ a.filter (· ∉ newest) ++ newest := fun x => by
    rw [List.mem_append, List.mem_filter, decide_eq_true_eq]
    exact ⟨fun h => (em (x ∈ newest)).elim .inr fun hnot => .inl ⟨h, hnot⟩,
      fun h => h.elim And.left (hsub x)⟩
  have hsorted : (a.filter (· ∉ newest) ++ newest).Pairwise (· < ·) := by
    refine List.pairwise_append.2 ⟨ha.filter _, hn, fun x hx y hy => ?_⟩
    obtain ⟨hx, hnot⟩ := List.mem_filter.1 hx
    exact hbelow x hx (of_decide_eq_true hnot) y hy
  have heq : a = a.filter (· ∉ newest) ++ newest :=
    List.Perm.eq_of_pairwise' (r := (· < ·)) ha hsorted
      ((List.perm_ext_iff_of_nodup (ha.imp ne_of_lt) (hsorted.imp ne_of_lt)).2 hmem)
  have hlen := congrArg List.length heq
  rw [List.length_append] at hlen
  rcases hcap with hcap | ⟨hcap, hall⟩
  · rw [show a.length - cap = (a.filter (· ∉ newest)).length by omega]
    nth_rewrite 2 [heq]
    exact List.drop_left
  · have hnil : a.filter (· ∉ newest) = [] :=
      List.filter_eq_nil_iff.2 fun x hx h => of_decide_eq_true h (hall x hx)
    rw [hnil, List.nil_append] at heq
    rw [heq, Nat.sub_eq_zero_of_le hcap, List.drop_zero]

end Newest

namespace DatabaseState

variable {d : DatabaseState} {i : IntervalType} {timeDiff x : ℤ}

def shiftedKeys (tables : Tables PackageLogRow) (timeDiff : ℤ) : List ℤ :=
  (tables.keys.map (· + timeDiff)).filter (0 ≤ ·)

/-- The start times that a shift should leave: the oldest over the cap go. -/
def shiftedTables (d : DatabaseState) (timeDiff : ℤ) (i : IntervalType) : List ℤ :=
  newestTables i (shiftedKeys (d.packageTables i) timeDiff)

/-- The tables of each type are the shifted ones, each with its rows. -/
def Shifted (d d' : DatabaseState) (timeDiff : ℤ) : Prop :=
  ∀ i, (d'.packageTables i).keys = d.shiftedTables timeDiff i ∧
    ∀ t ∈ d.shiftedTables timeDiff i,
      (d'.packageTables i).rows t = (d.packageTables i).rows (t - timeDiff)

def NamesFree (d : DatabaseState) (timeDiff : ℤ) : Prop :=
  ∀ i, ∀ t ∈ d.shiftedTables timeDiff i, t ∉ d.packageTables i

section OneType

variable {tables : Tables PackageLogRow}

theorem mem_shiftedKeys : x ∈ shiftedKeys tables timeDiff ↔ x - timeDiff ∈ tables ∧ 0 ≤ x := by
  unfold shiftedKeys
  rw [List.mem_filter, List.mem_map, decide_eq_true_eq]
  refine and_congr_left fun _ => ⟨?_, fun h => ⟨x - timeDiff, Std.TreeMap.mem_keys.2 h, by omega⟩⟩
  rintro ⟨t, ht, rfl⟩
  rw [add_sub_cancel_right]
  exact Std.TreeMap.mem_keys.1 ht

theorem shiftedKeys_sorted : (shiftedKeys tables timeDiff).Pairwise (· < ·) := by
  refine List.Pairwise.filter _ (List.pairwise_map.2 ((keys_sorted tables).imp fun h => ?_))
  omega

theorem mem_keys_of_mem : ∀ t ∈ tables.keys, t ∈ tables := fun _ h => Std.TreeMap.mem_keys.1 h

theorem foldl_renew_of_neg (hd : timeDiff < 0) :
    (tables.keys.foldl (Tables.renew timeDiff) tables).keys = shiftedKeys tables timeDiff ∧
      ∀ x ∈ shiftedKeys tables timeDiff,
        (tables.keys.foldl (Tables.renew timeDiff) tables)[x]? = tables[x - timeDiff]? := by
  have hread := Tables.getElem?_foldl_renew_of_neg hd tables.keys (keys_sorted tables) tables
    mem_keys_of_mem fun _ _ h => Std.TreeMap.mem_keys.2 h
  simp only [Std.TreeMap.mem_keys] at hread
  constructor
  · refine keys_eq_of_sorted shiftedKeys_sorted fun x => ?_
    rw [Std.TreeMap.mem_iff_isSome_getElem?, hread, mem_shiftedKeys]
    split_ifs with h₁ h₂
    · rw [← Std.TreeMap.mem_iff_isSome_getElem?]
      exact iff_of_true h₁.1 h₁
    · exact iff_of_false Bool.false_ne_true h₁
    · rw [← Std.TreeMap.mem_iff_isSome_getElem?]
      exact iff_of_false h₂ h₁
  · intro x hx
    rw [hread, if_pos (mem_shiftedKeys.1 hx)]

theorem mem_foldl_renew_of_pos (hd : 0 < timeDiff) :
    x ∈ tables.keys.foldl (Tables.renew timeDiff) tables ↔
      x ∈ tables ∧ x + timeDiff ∈ tables ∧ 0 ≤ x + timeDiff ∨
        x ∉ tables ∧ x ∈ shiftedKeys tables timeDiff := by
  have hread := Tables.getElem?_foldl_renew_of_pos hd tables.keys (keys_sorted tables) tables
    mem_keys_of_mem x
  simp only [Std.TreeMap.mem_keys] at hread
  rw [Std.TreeMap.mem_iff_isSome_getElem?, hread, mem_shiftedKeys]
  split_ifs with h₁ h₂ h₃
  · rw [← Std.TreeMap.mem_iff_isSome_getElem?]
    exact iff_of_true h₁ (.inl ⟨h₁, h₂.2, h₂.1⟩)
  · exact iff_of_false Bool.false_ne_true fun h =>
      h.elim (fun h => h₂ ⟨h.2.2, h.2.1⟩) fun h => h.1 h₁
  · rw [← Std.TreeMap.mem_iff_isSome_getElem?]
    exact iff_of_true h₃.1 (.inr ⟨h₁, h₃.1, h₃.2.1⟩)
  · rw [← Std.TreeMap.mem_iff_isSome_getElem?]
    exact iff_of_false h₁ fun h => h.elim (fun h => h₁ h.1) fun h => h₃ ⟨h.2.1, h.2.2, h₁⟩

theorem newest_foldl_renew_of_pos (hd : 0 < timeDiff)
    (hfree : ∀ t ∈ newestTables i (shiftedKeys tables timeDiff), t ∉ tables) :
    newestTables i (tables.keys.foldl (Tables.renew timeDiff) tables).keys =
      newestTables i (shiftedKeys tables timeDiff) := by
  set newest := newestTables i (shiftedKeys tables timeDiff) with hnewest
  have hsorted : newest.Pairwise (· < ·) := shiftedKeys_sorted.drop
  -- a shifted start time that is not among the newest comes before them
  have hlow : ∀ x ∈ shiftedKeys tables timeDiff, x ∉ newest → ∀ y ∈ newest, x < y := by
    intro x hx hnot y hy
    have hsplit := List.take_append_drop ((shiftedKeys tables timeDiff).length -
      maxFilesEveryIntervalType i) (shiftedKeys tables timeDiff)
    have hpair : (shiftedKeys tables timeDiff).Pairwise (· < ·) := shiftedKeys_sorted
    rw [← hsplit] at hpair hx
    exact (List.pairwise_append.1 hpair).2.2 x ((List.mem_append.1 hx).resolve_right hnot) y hy
  have hmoved : ∀ x ∈ tables, x + timeDiff ∈ tables → 0 ≤ x + timeDiff →
      x + timeDiff ∈ shiftedKeys tables timeDiff := fun x hx _ h0 =>
    mem_shiftedKeys.2 ⟨by rwa [add_sub_cancel_right], h0⟩
  refine drop_eq_of_greatest (keys_sorted _) hsorted (fun x hx => ?_) (fun x hx hnot y hy => ?_) ?_
  · rw [Std.TreeMap.mem_keys, mem_foldl_renew_of_pos hd]
    exact .inr ⟨hfree x hx, List.mem_of_mem_drop hx⟩
  · rw [Std.TreeMap.mem_keys, mem_foldl_renew_of_pos hd] at hx
    rcases hx with ⟨hx, htaken, h0⟩ | ⟨-, hx⟩
    · have hlt := hlow _ (hmoved x hx htaken h0) (fun h => hfree _ h htaken) y hy
      omega
    · exact hlow x hx hnot y hy
  · by_cases hlen : maxFilesEveryIntervalType i ≤ (shiftedKeys tables timeDiff).length
    · left
      rw [hnewest, newestTables, List.length_drop]
      omega
    · right
      have hall : newest = shiftedKeys tables timeDiff := by
        rw [hnewest, newestTables, Nat.sub_eq_zero_of_le (by omega), List.drop_zero]
      refine ⟨length_newestTables_le i _, fun x hx => ?_⟩
      rw [Std.TreeMap.mem_keys, mem_foldl_renew_of_pos hd] at hx
      rcases hx with ⟨hx, htaken, h0⟩ | ⟨-, hx⟩
      · exact absurd htaken (hfree _ (hall ▸ hmoved x hx htaken h0))
      · rwa [hall]

/-- If a shifted start time was the name of a table and is one afterwards, so is the next one above
it; there is no end to them. -/
theorem namesFree_of_newest (hd : 0 < timeDiff)
    (h : newestTables i (tables.keys.foldl (Tables.renew timeDiff) tables).keys =
      newestTables i (shiftedKeys tables timeDiff)) :
    ∀ t ∈ newestTables i (shiftedKeys tables timeDiff), t ∉ tables := by
  intro t ht htaken
  have hnext : ∀ t ∈ newestTables i (shiftedKeys tables timeDiff), t ∈ tables →
      t + timeDiff ∈ newestTables i (shiftedKeys tables timeDiff) ∧ t + timeDiff ∈ tables := by
    intro t ht htaken
    have hstays : t ∈ tables.keys.foldl (Tables.renew timeDiff) tables := by
      rw [← h] at ht
      exact Std.TreeMap.mem_keys.1 (List.mem_of_mem_drop ht)
    rcases (mem_foldl_renew_of_pos hd).1 hstays with ⟨-, hup, h0⟩ | ⟨hnot, -⟩
    · refine ⟨?_, hup⟩
      have hin : t + timeDiff ∈ shiftedKeys tables timeDiff :=
        mem_shiftedKeys.2 ⟨by rwa [add_sub_cancel_right], h0⟩
      refine (mem_newestTables shiftedKeys_sorted).2 ⟨hin, fun hold => ?_⟩
      have hpair : (shiftedKeys tables timeDiff).Pairwise (· < ·) := shiftedKeys_sorted
      rw [← List.take_append_drop ((shiftedKeys tables timeDiff).length -
        maxFilesEveryIntervalType i) (shiftedKeys tables timeDiff)] at hpair
      have := (List.pairwise_append.1 hpair).2.2 _ hold t ht
      omega
    · exact absurd htaken hnot
  have hchain : ∀ n : ℕ, t + n * timeDiff ∈ newestTables i (shiftedKeys tables timeDiff) ∧
      t + n * timeDiff ∈ tables := by
    intro n
    induction n with
    | zero => simpa using ⟨ht, htaken⟩
    | succ n ih =>
      have := hnext _ ih.1 ih.2
      rwa [show t + (n : ℤ) * timeDiff + timeDiff = t + ((n + 1 : ℕ) : ℤ) * timeDiff by
        push_cast; ring] at this
  have hinj : Function.Injective fun n : ℕ => t + n * timeDiff := fun m n hmn => by
    have : (m : ℤ) * timeDiff = n * timeDiff := by simpa using hmn
    exact_mod_cast mul_right_cancel₀ hd.ne' this
  refine Set.infinite_range_of_injective hinj
    ((List.finite_toSet tables.keys).subset ?_)
  rintro x ⟨n, rfl⟩
  exact Std.TreeMap.mem_keys.2 (hchain n).2

theorem foldl_renew_shifted_iff (hdiff : timeDiff ≠ 0) :
    (newestTables i (tables.keys.foldl (Tables.renew timeDiff) tables).keys =
        newestTables i (shiftedKeys tables timeDiff) ∧
      ∀ x ∈ newestTables i (shiftedKeys tables timeDiff),
        (tables.keys.foldl (Tables.renew timeDiff) tables).rows x = tables.rows (x - timeDiff)) ↔
    (0 < timeDiff → ∀ t ∈ newestTables i (shiftedKeys tables timeDiff), t ∉ tables) := by
  rcases lt_or_gt_of_ne hdiff with hd | hd
  · obtain ⟨hkeys, hrows⟩ := (foldl_renew_of_neg hd : _ = shiftedKeys tables timeDiff ∧ _)
    refine iff_of_true ⟨by rw [hkeys], fun x hx => ?_⟩ fun h => absurd h (not_lt.2 hd.le)
    rw [Tables.rows, hrows x (List.mem_of_mem_drop hx), Tables.rows]
  · refine ⟨fun h _ => namesFree_of_newest hd h.1, fun h => ?_⟩
    refine ⟨newest_foldl_renew_of_pos hd (h hd), fun x hx => ?_⟩
    have hread := Tables.getElem?_foldl_renew_of_pos hd tables.keys (keys_sorted tables) tables
      mem_keys_of_mem x
    have hshift := mem_shiftedKeys.1 (List.mem_of_mem_drop hx)
    simp only [Std.TreeMap.mem_keys] at hread
    rw [if_neg (h hd x hx), if_pos ⟨hshift.1, hshift.2, h hd x hx⟩] at hread
    rw [Tables.rows, hread, Tables.rows]

end OneType

/-- A clock change shifts every table, unless a later clock's name is taken. -/
theorem renewTableTime_shifted_iff
    (listed : ∀ i, d.sortedTableArray i = (d.packageTables i).keys) (hdiff : timeDiff ≠ 0) :
    d.Shifted (d.renewTableTime timeDiff) timeDiff ↔ (0 < timeDiff → d.NamesFree timeDiff) := by
  have htype : ∀ i, ((d.renewTableTime timeDiff).packageTables i).keys =
        d.shiftedTables timeDiff i ∧ (∀ t ∈ d.shiftedTables timeDiff i,
          ((d.renewTableTime timeDiff).packageTables i).rows t =
            (d.packageTables i).rows (t - timeDiff)) ↔
      (0 < timeDiff → ∀ t ∈ d.shiftedTables timeDiff i, t ∉ d.packageTables i) := by
    intro i
    obtain ⟨hkeys, hrows, -⟩ := renewPackageTables_newest (listed i) timeDiff
    rw [(sameType_renewTableTime d timeDiff i).tables, hkeys]
    refine .trans ?_ (foldl_renew_shifted_iff hdiff)
    refine and_congr_right fun heq => forall₂_congr fun t ht => ?_
    have hread := hrows t (by rwa [heq])
    rw [Tables.rows, hread]
    rfl
  exact (forall_congr' htype).trans forall_comm

def twoDays : DatabaseState :=
  { sortedTableArray := fun _ => [1709251200000, 1709337600000]
    packageTables := fun _ =>
      (({} : Tables PackageLogRow).insert 1709251200000 []).insert 1709337600000 [] }

theorem listed_twoDays (i : IntervalType) :
    twoDays.sortedTableArray i = (twoDays.packageTables i).keys := by
  cases i <;> decide +kernel

/-- The clock is set forward by an hour. -/
theorem renewTableTime_twoDays_hour :
    twoDays.Shifted (twoDays.renewTableTime 3600000) 3600000 :=
  (renewTableTime_shifted_iff listed_twoDays (by decide)).2 fun _ i => by
    cases i <;> decide +kernel

/-- The clock is set forward by a day: the first table stays, and no table gets the name of the
second. -/
theorem not_shifted_twoDays_day :
    (∀ i, twoDays.sortedTableArray i = (twoDays.packageTables i).keys) ∧
      ¬ twoDays.Shifted (twoDays.renewTableTime 86400000) 86400000 := by
  refine ⟨listed_twoDays, fun h => ?_⟩
  have hkeys := (h .daily).1
  revert hkeys
  decide +kernel

end DatabaseState
end DeviceUsageStats
