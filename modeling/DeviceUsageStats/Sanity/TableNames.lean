import Mathlib
import DeviceUsageStats.Sanity.Caches
import DeviceUsageStats.Spec.TableNames

/-! The names of tables: a start time is read back from the name that is made of it, and names of tables of
one kind differ as their start times do. -/

namespace DeviceUsageStats

/-- A time that fits `int64_t`, whatever its sign. -/
def FitsInt64 (t : ℤ) : Prop := |t| < 2 ^ 63

namespace TimedTable

variable (table : TimedTable) (s t : ℤ)

theorem toList_tableName :
    (table.tableName t).toList = table.stem.toList ++ (toString t).toList := by
  rw [tableName, String.toList_append]

theorem isDigit_of_mem_stem : ∀ c ∈ table.stem.toList, c.isDigit = false := by
  have hall : table.stem.toList.all (!·.isDigit) = true := by cases table <;> decide
  intro c hc
  simpa using List.all_eq_true.1 hall c hc

theorem tableName_inj : table.tableName s = table.tableName t ↔ s = t := by
  refine ⟨fun h => ?_, fun h => h ▸ rfl⟩
  have hlist := congrArg String.toList h
  rw [toList_tableName, toList_tableName] at hlist
  exact Int.repr_injective (String.toList_injective (List.append_cancel_left hlist))

theorem head?_tableName : (table.tableName t).toList.head? = table.stem.toList.head? := by
  rw [toList_tableName]
  cases table <;> rfl

theorem tableName_ne_unknown : table.tableName t ≠ unknownTableName := by
  intro h
  have hhead := head?_tableName table t
  rw [h] at hhead
  cases table <;> exact absurd hhead (by decide)

theorem tableName_ne_empty : table.tableName t ≠ "" := by
  intro h
  have hhead := head?_tableName table t
  rw [h] at hhead
  cases table <;> exact absurd hhead (by decide)

theorem length_tableName_le (ht : FitsInt64 t) : (table.tableName t).length ≤ 36 := by
  have hdigits : (Nat.toDigits 10 t.natAbs).length ≤ 19 := by
    refine (Nat.length_toDigits_le_iff (by decide) (by decide)).2 ?_
    rw [FitsInt64, Int.abs_eq_natAbs] at ht
    omega
  have hstem : table.stem.toList.length ≤ 15 := by cases table <;> decide
  rw [← String.length_toList, toList_tableName, List.length_append, LeadingInteger.toList_toString]
  split_ifs
  · omega
  · rw [List.length_cons]
    omega

theorem fromFirstDigit_tableName :
    fromFirstDigit (table.tableName t).toList = Nat.toDigits 10 t.natAbs := by
  obtain ⟨c, cs, hdigits, hc⟩ := LeadingInteger.exists_toDigits t.natAbs
  have hstop : (Nat.toDigits 10 t.natAbs).dropWhile (!·.isDigit) = Nat.toDigits 10 t.natAbs := by
    rw [hdigits, List.dropWhile_cons_of_neg (by simp [hc])]
  have hdrop : ((toString t).toList).dropWhile (!·.isDigit) = Nat.toDigits 10 t.natAbs := by
    rw [LeadingInteger.toList_toString]
    split_ifs
    · exact hstop
    · rw [List.dropWhile_cons_of_pos (by decide), hstop]
  have hany : (table.tableName t).toList.any Char.isDigit = true := by
    rw [List.any_eq_true]
    refine ⟨c, ?_, hc⟩
    rw [toList_tableName, LeadingInteger.toList_toString]
    split_ifs <;> simp [hdigits]
  rw [fromFirstDigit, if_pos hany, toList_tableName, List.dropWhile_append_of_pos, hdrop]
  intro c hc
  rw [table.isDigit_of_mem_stem c hc]
  rfl

/-- `ParseStartTime` of a name that is made of a time. -/
theorem parseTableName_tableName {t : ℤ} (ht : FitsInt64 t) :
    parseTableName (table.tableName t) = parseStartTime t := by
  have hlength := table.length_tableName_le t ht
  have hread : LeadingInteger.readInt (Nat.toDigits 10 t.natAbs ++ []) = some ((t.natAbs : ℤ), []) :=
    LeadingInteger.readInt_toDigits t.natAbs (by simp)
  rw [List.append_nil] at hread
  rw [parseTableName, if_neg (table.tableName_ne_empty t), if_neg (by unfold dbNameMaxLength; omega),
    fromFirstDigit_tableName, LeadingInteger.value, hread]
  exact (Int.abs_eq_natAbs t).symm

theorem parseTableName_of_nonneg {t : ℤ} (ht : FitsInt64 t) (hnonneg : 0 ≤ t) :
    parseTableName (table.tableName t) = t := by
  rw [table.parseTableName_tableName ht, parseStartTime, abs_of_nonneg hnonneg]

theorem acceptedName_tableName : acceptedName (table.tableName t) = true ↔ 0 ≤ t := by
  have hstem : '-' ∉ table.stem.toList := by cases table <;> decide
  rw [acceptedName, decide_eq_true_eq, toList_tableName, List.mem_append, LeadingInteger.toList_toString]
  split_ifs with ht
  · have hdigits : '-' ∉ Nat.toDigits 10 t.natAbs := fun h =>
      absurd (LeadingInteger.isDigit_of_mem_toDigits h) (by decide)
    simp [hstem, hdigits, ht]
  · simp [ht]

theorem tableName_lt {s t : ℤ} (h : toString s < toString t) :
    table.tableName s < table.tableName t := by
  rw [String.lt_iff_toList_lt] at h ⊢
  rw [toList_tableName, toList_tableName]
  exact List.Lex.append_left _ h _

/-- Names of tables of one kind are ordered as the texts of their times. -/
theorem tableName_le_iff : table.tableName s ≤ table.tableName t ↔ toString s ≤ toString t := by
  rcases lt_trichotomy (toString s) (toString t) with h | h | h
  · exact iff_of_true (table.tableName_lt h).le h.le
  · exact iff_of_true (by rw [tableName, tableName, h]) h.le
  · exact iff_of_false (table.tableName_lt h).not_ge h.not_ge

theorem nameContains_stem : nameContains table.stem (table.tableName t) = true := by
  rw [nameContains, decide_eq_true_eq, toList_tableName]
  exact (List.prefix_append _ _).isInfix

/-- The name of a form table holds no capital M. -/
theorem not_nameContains_form :
    nameContains moduleRecordLog.stem (formRecordLog.tableName t) = false := by
  rw [nameContains, decide_eq_false_iff_not]
  intro h
  have hmem : 'M' ∈ (formRecordLog.tableName t).toList := h.subset (by decide)
  rw [toList_tableName, List.mem_append, LeadingInteger.toList_toString] at hmem
  rcases hmem with hmem | hmem
  · exact absurd hmem (by decide)
  · have hdigits : 'M' ∉ Nat.toDigits 10 t.natAbs := fun h =>
      absurd (LeadingInteger.isDigit_of_mem_toDigits h) (by decide)
    split_ifs at hmem
    · exact hdigits hmem
    · rcases List.mem_cons.1 hmem with h | h
      · exact absurd h (by decide)
      · exact hdigits h

end TimedTable

end DeviceUsageStats
