import Mathlib
import DeviceUsageStats.Sanity.EventTables

/-! The tables that a database object finds when it starts. Of the package tables of a type it keeps the
newest that start before the clock; among the event tables it looks for the one to continue by the order of
their names, which is the order of their start times only among names of one length. -/

namespace DeviceUsageStats
namespace DatabaseState

variable {d d' d'' : DatabaseState} {i : IntervalType} {t e : ℤ}

/-! ### Package tables -/

/-- The tables of a type afterwards are those of its cache: the tables from before the clock that are
among the newest, with their rows. -/
structure Pruned (i : IntervalType) (files : DatabaseFiles) (t : ℤ) (d : DatabaseState) : Prop where
  sorted : (d.sortedTableArray i).Pairwise (· < ·)
  keys : (d.packageTables i).keys = d.sortedTableArray i
  kept : ∀ x : ℤ, x ∈ d.packageTables i ↔ x ∈ files.packageTables i ∧ x < t ∧
    (files.packageTables i).keys.countP (x < ·) < maxFilesEveryIntervalType i
  rows : ∀ x : ℤ, x ∈ d.packageTables i → (d.packageTables i)[x]? = (files.packageTables i)[x]?

structure SameRecordTables (d d' : DatabaseState) : Prop where
  modules : d'.moduleTables = d.moduleTables
  forms : d'.formTables = d.formTables

theorem SameRecordTables.refl (d : DatabaseState) : SameRecordTables d d := ⟨rfl, rfl⟩

theorem SameRecordTables.trans (h : SameRecordTables d d') (h' : SameRecordTables d' d'') :
    SameRecordTables d d'' :=
  ⟨h'.modules.trans h.modules, h'.forms.trans h.forms⟩

theorem SameRecordTables.foldl {α : Type} {f : DatabaseState → α → DatabaseState}
    (h : ∀ d x, SameRecordTables d (f d x)) (l : List α) (d : DatabaseState) :
    SameRecordTables d (l.foldl f d) := by
  induction l generalizing d with
  | nil => exact .refl d
  | cons x l ih => exact (h d x).trans (ih _)

theorem sameRecordTables_handleTableInfo (d : DatabaseState) (i : IntervalType) :
    SameRecordTables d (d.handleTableInfo i) := by
  unfold handleTableInfo
  split <;> exact ⟨rfl, rfl⟩

theorem sameRecordTables_deleteExcessiveTableData (d : DatabaseState) (i : IntervalType) :
    SameRecordTables d (d.deleteExcessiveTableData i) := by
  have h := SameRecordTables.foldl (f := fun d t => d.deletePackageTable i t)
    (fun _ _ => ⟨rfl, rfl⟩) ((d.sortedTableArray i).take
      ((d.sortedTableArray i).length - maxFilesEveryIntervalType i)) d
  exact ⟨h.modules, h.forms⟩

theorem sameRecordTables_deleteFutureTables (t : ℤ) (d : DatabaseState) (i : IntervalType) :
    SameRecordTables d (deleteFutureTables t d i) := by
  unfold deleteFutureTables
  simp only
  split_ifs
  · exact .refl d
  · refine SameRecordTables.foldl (fun d x => ?_) _ d
    exact ⟨rfl, rfl⟩

theorem sameRecordTables_initEventTable (d : DatabaseState) (t : ℤ) :
    SameRecordTables d (d.initEventTable t) := by
  unfold initEventTable
  split_ifs with hname
  · exact .refl d
  · simp only
    have h := SameRecordTables.foldl (f := initEventTableStep t) (fun d x => by
      unfold initEventTableStep
      split_ifs <;> exact ⟨rfl, rfl⟩)
      (d.eventTables.keys.insertionSort fun s t => toString s ≤ toString t).reverse d
    split_ifs
    · exact ⟨h.modules, h.forms⟩
    · exact h

theorem sameRecordTables_handleEventTableInfo (d : DatabaseState) :
    SameRecordTables d d.handleEventTableInfo := by
  unfold handleEventTableInfo
  split <;> exact ⟨rfl, rfl⟩

theorem sameRecordTables_deleteExcessiveEventData (d : DatabaseState) :
    SameRecordTables d d.deleteExcessiveEventData := by
  have hrows : ∀ e t, SameRecordTables d (d.deleteEventRows e t) := by
    intro e t
    unfold deleteEventRows
    split_ifs <;> exact ⟨rfl, rfl⟩
  unfold deleteExcessiveEventData
  split
  · exact .refl d
  · split_ifs
    · exact .refl d
    all_goals exact hrows _ _

theorem sameRecordTables_initDatabaseTableInfo (d : DatabaseState) (t : ℤ) :
    SameRecordTables d (d.initDatabaseTableInfo t) := by
  have h₁ := SameRecordTables.foldl (fun d i => (sameRecordTables_handleTableInfo d i).trans
    (sameRecordTables_deleteExcessiveTableData _ i)) IntervalType.all d
  unfold initDatabaseTableInfo
  simp only
  set d₁ := IntervalType.all.foldl
    (fun d i => (d.handleTableInfo i).deleteExcessiveTableData i) d
  have h₂ := (sameRecordTables_handleEventTableInfo d₁).trans
    (sameRecordTables_deleteExcessiveEventData _)
  have h₃ := SameRecordTables.foldl (sameRecordTables_deleteFutureTables t) IntervalType.all
    d₁.handleEventTableInfo.deleteExcessiveEventData
  set d₃ := IntervalType.all.foldl (deleteFutureTables t)
    d₁.handleEventTableInfo.deleteExcessiveEventData
  refine ((h₁.trans h₂).trans h₃).trans (.trans ?_ (sameRecordTables_initEventTable _ t))
  split
  · exact .refl d₃
  · split_ifs <;> exact ⟨rfl, rfl⟩

theorem pruned_initDatabaseTableInfo (hd : d.sortedTableArray i = []) (t : ℤ) :
    Pruned i d.toDatabaseFiles t (d.initDatabaseTableInfo t) := by
  obtain ⟨harray, htables⟩ := getElem?_initDatabaseTableInfo hd t
  have hsorted : ((d.initDatabaseTableInfo t).sortedTableArray i).Pairwise (· < ·) := by
    rw [harray]
    exact ((keys_sorted (d.packageTables i)).drop).filter _
  have hnewest : ∀ x, x ∈ (d.initDatabaseTableInfo t).sortedTableArray i ↔
      x ∈ d.packageTables i ∧ x < t ∧
        (d.packageTables i).keys.countP (x < ·) < maxFilesEveryIntervalType i := fun x => by
    rw [harray, List.mem_filter, Bisection.mem_drop_length_sub_iff (keys_sorted (d.packageTables i)),
      decide_eq_true_eq, Std.TreeMap.mem_keys, and_assoc, and_comm (a := _ < _) (b := x < t)]
  have hmem : ∀ x : ℤ, x ∈ (d.initDatabaseTableInfo t).packageTables i ↔
      x ∈ (d.initDatabaseTableInfo t).sortedTableArray i := fun x => by
    rw [Std.TreeMap.mem_iff_isSome_getElem?, htables]
    split_ifs with hx
    · rw [← Std.TreeMap.mem_iff_isSome_getElem?]
      exact iff_of_true ((hnewest x).1 hx).1 hx
    · exact iff_of_false (by simp) hx
  refine ⟨hsorted, keys_eq_of_sorted hsorted hmem, fun x => (hmem x).trans (hnewest x), ?_⟩
  intro x hx
  rw [htables, if_pos ((hmem x).1 hx)]

/-- The single event table that a service leaves behind is kept too, unless it starts after the clock. -/
theorem initDatabaseTableInfo_prunes (files : DatabaseFiles) (debug : Bool) (t : ℤ) :
    (∀ i, Pruned i files t
      (initDatabaseTableInfo { debugDatabase := debug, toDatabaseFiles := files } t)) ∧
    SameRecordTables { debugDatabase := debug, toDatabaseFiles := files }
      (initDatabaseTableInfo { debugDatabase := debug, toDatabaseFiles := files } t) ∧
    ∀ e, 0 ≤ e → e ≤ t → files.eventTables.keys = [e] → ∀ x : ℤ,
      x ∈ (initDatabaseTableInfo
        { debugDatabase := debug, toDatabaseFiles := files } t).eventTables ↔ x = e := by
  refine ⟨fun i => pruned_initDatabaseTableInfo
    (d := { debugDatabase := debug, toDatabaseFiles := files }) rfl t,
    sameRecordTables_initDatabaseTableInfo _ t, ?_⟩
  intro e he0 het hkeys x
  obtain ⟨-, htables⟩ := initDatabaseTableInfo_events
    { debugDatabase := debug, toDatabaseFiles := files } t rfl fun y hy => by
      rw [← Std.TreeMap.mem_keys, hkeys, List.mem_singleton] at hy
      exact hy ▸ he0
  have hchoice : eventChoice files.eventTables.keys t = some e := by
    rw [hkeys]
    simp [eventChoice, het]
  rw [htables, hchoice]
  simp [eq_comm]

/-! ### Event tables -/

/-- The choice goes by the names: the last name in string order among the tables that qualify. -/
theorem eventChoice_eq_some_iff {eventTables : List ℤ} :
    eventChoice eventTables t = some e ↔ e ∈ eventTables ∧ e ≤ t ∧
      ∀ x ∈ eventTables, x ≤ t → toString x ≤ toString e := by
  have hgreatest : ∀ {e : ℤ}, eventChoice eventTables t = some e →
      ∀ x ∈ eventTables, x ≤ t → toString x ≤ toString e := by
    intro e h x hx hxt
    have hsorted : ((eventTables.insertionSort fun s t => toString s ≤ toString t).reverse).Pairwise
        fun s t => toString t ≤ toString s := by
      rw [List.pairwise_reverse]
      exact List.pairwise_insertionSort (fun s t : ℤ => toString s ≤ toString t) eventTables
    obtain ⟨-, before, after, hsplit, hbefore⟩ := List.find?_eq_some_iff_append.1 h
    have hmem : x ∈ before ++ e :: after := by
      rw [← hsplit, List.mem_reverse, List.mem_insertionSort]
      exact hx
    rw [hsplit, List.pairwise_append, List.pairwise_cons] at hsorted
    rcases List.mem_append.1 hmem with hx' | hx'
    · exact absurd hxt (by simpa using hbefore x hx')
    rcases List.mem_cons.1 hx' with rfl | hx'
    · exact le_rfl
    · exact hsorted.2.1.1 x hx'
  refine ⟨fun h => ⟨(eventChoice_mem h).1, (eventChoice_mem h).2, hgreatest h⟩, ?_⟩
  rintro ⟨hmem, hle, hlast⟩
  cases h : eventChoice eventTables t with
  | none =>
    have hnone := List.find?_eq_none.1 h e (by rwa [List.mem_reverse, List.mem_insertionSort])
    exact absurd hle (by simpa using hnone)
  | some e' =>
    have hsame : toString e = toString e' :=
      le_antisymm (hgreatest h e hmem hle) (hlast e' (eventChoice_mem h).1 (eventChoice_mem h).2)
    rw [Int.repr_injective hsame]

theorem eventChoice_eq_none_iff {eventTables : List ℤ} :
    eventChoice eventTables t = none ↔ ∀ x ∈ eventTables, t < x := by
  unfold eventChoice
  rw [List.find?_eq_none]
  simp

/-- The newest event table that does not start after the clock. -/
structure IsNewestEventTable (d : DatabaseState) (t e : ℤ) : Prop where
  mem : e ∈ d.eventTables
  le : e ≤ t
  newest : ∀ x : ℤ, x ∈ d.eventTables → x ≤ t → x ≤ e

/-- The newest table is continued with its rows, or a table is made; no other table stays. -/
structure ContinuesNewest (d : DatabaseState) (t : ℤ) (d' : DatabaseState) : Prop where
  newest : ∀ e, IsNewestEventTable d t e → d'.eventTableName = some e ∧
    ∀ x : ℤ, d'.eventTables[x]? = if x = e then d.eventTables[x]? else none
  made : (∀ x : ℤ, x ∈ d.eventTables → t < x) → d'.eventTableName = some t ∧
    ∀ x : ℤ, d'.eventTables[x]? = (Tables.create {} t : Tables EventLogRow)[x]?

theorem IsNewestEventTable.eq {e' : ℤ} (h : IsNewestEventTable d t e)
    (h' : IsNewestEventTable d t e') : e = e' :=
  le_antisymm (h'.newest e h.mem h.le) (h.newest e' h'.mem h'.le)

theorem initEventTable_continues_iff (d : DatabaseState) (t : ℤ) (hname : d.eventTableName = none) :
    ContinuesNewest d t (d.initEventTable t) ↔
      ∀ e, IsNewestEventTable d t e → ∀ x : ℤ, x ∈ d.eventTables → x ≤ t →
        toString x ≤ toString e := by
  obtain ⟨hchosen, htables⟩ := getElem?_initEventTable d t hname
  have hchoice : ∀ e, IsNewestEventTable d t e →
      (eventChoice d.eventTables.keys t = some e ↔
        ∀ x : ℤ, x ∈ d.eventTables → x ≤ t → toString x ≤ toString e) := fun e he => by
    rw [eventChoice_eq_some_iff, Std.TreeMap.mem_keys, and_iff_right he.mem, and_iff_right he.le]
    exact forall_congr' fun x => by rw [Std.TreeMap.mem_keys]
  refine ⟨fun h e he => (hchoice e he).1 ?_, fun h => ⟨fun e he => ?_, fun hnone => ?_⟩⟩
  · have hnone : eventChoice d.eventTables.keys t ≠ none := fun h' =>
      absurd he.le (not_le.2 (eventChoice_eq_none_iff.1 h' e (Std.TreeMap.mem_keys.2 he.mem)))
    obtain ⟨e', he'⟩ := Option.ne_none_iff_exists'.1 hnone
    rw [he', Option.getD_some] at hchosen
    rw [he', ← hchosen, (h.newest e he).1]
  · have hsome := (hchoice e he).2 (h e he)
    rw [hsome] at hchosen htables
    exact ⟨hchosen, htables⟩
  · have hchoiceNone : eventChoice d.eventTables.keys t = none :=
      eventChoice_eq_none_iff.2 fun x hx => hnone x (Std.TreeMap.mem_keys.1 hx)
    rw [hchoiceNone] at hchosen htables
    exact ⟨hchosen, htables⟩

/-- Two event tables at start times with different numbers of digits. -/
def shortAndLongNames : DatabaseState where
  eventTables := (({} : Tables EventLogRow).insert 999 []).insert 1000 []

def sameLengthNames : DatabaseState where
  eventTables := ((({} : Tables EventLogRow).insert 1000 []).insert 1500 []).insert 2500 []

theorem initEventTable_continues_sameLength :
    ContinuesNewest sameLengthNames 2000 (sameLengthNames.initEventTable 2000) := by
  refine (initEventTable_continues_iff sameLengthNames 2000 rfl).2 fun e he => ?_
  have hkeys : sameLengthNames.eventTables.keys = [1000, 1500, 2500] := by decide +kernel
  have hnewest : IsNewestEventTable sameLengthNames 2000 1500 := by
    refine ⟨by decide +kernel, by decide, fun x hx hle => ?_⟩
    rw [← Std.TreeMap.mem_keys, hkeys] at hx
    simp only [List.mem_cons, List.not_mem_nil, or_false] at hx
    omega
  obtain rfl := he.eq hnewest
  intro x hx hle
  rw [← Std.TreeMap.mem_keys, hkeys] at hx
  have hcases : x = 1000 ∨ x = 1500 := by
    simp only [List.mem_cons, List.not_mem_nil, or_false] at hx
    omega
  rcases hcases with rfl | rfl
  · decide +kernel
  · exact le_rfl

/-- The older table is continued: its name is the greater string. -/
theorem initEventTable_shortName :
    (∀ x ∈ shortAndLongNames.eventTables.keys, 0 ≤ x) ∧
      IsNewestEventTable shortAndLongNames 2000 1000 ∧
      (shortAndLongNames.initEventTable 2000).eventTableName = some 999 ∧
      (1000 : ℤ) ∉ (shortAndLongNames.initEventTable 2000).eventTables ∧
      ¬ ContinuesNewest shortAndLongNames 2000 (shortAndLongNames.initEventTable 2000) := by
  have hkeys : shortAndLongNames.eventTables.keys = [999, 1000] := by decide +kernel
  have hnewest : IsNewestEventTable shortAndLongNames 2000 1000 := by
    refine ⟨by decide +kernel, by decide, fun x hx hle => ?_⟩
    rw [← Std.TreeMap.mem_keys, hkeys] at hx
    simp only [List.mem_cons, List.not_mem_nil, or_false] at hx
    omega
  have hchosen : (shortAndLongNames.initEventTable 2000).eventTableName = some 999 := by
    decide +kernel
  refine ⟨by decide +kernel, hnewest, hchosen, by decide +kernel, fun h => ?_⟩
  have := (h.newest 1000 hnewest).1
  rw [hchosen] at this
  exact absurd this (by decide)

end DatabaseState
end DeviceUsageStats
