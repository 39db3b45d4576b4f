import DeviceUsageStats.Spec.Calendar
import DeviceUsageStats.Spec.Event

/-! The tables of the database files, with the SQL statements that the code runs on them. A table
name is a fixed prefix and a decimal start time, so a table is known by its start time. A start
time with a sign makes no name that SQL accepts: such a table is never created. A statement on a
table that does not exist fails and changes nothing; a query on it yields no row. -/

namespace DeviceUsageStats

structure PackageLogRow where
  userId : ℤ
  bundleName : String
  bundleStartedCount : ℤ
  lastTime : ℤ
  lastTimeContinuousTask : ℤ
  totalTime : ℤ
  totalTimeContinuousTask : ℤ
  uid : ℤ
  deriving DecidableEq, Repr

structure EventLogRow where
  userId : ℤ
  bundleName : String
  eventId : EventId
  timeStamp : ℤ
  abilityId : String
  uid : ℤ
  deriving DecidableEq, Repr

structure ModuleRecordRow where
  userId : ℤ
  bundleName : String
  moduleName : String
  launchedCount : ℤ
  lastTime : ℤ
  uid : ℤ
  deriving DecidableEq, Repr

structure FormRecordRow where
  userId : ℤ
  bundleName : String
  moduleName : String
  formName : String
  formDimension : ℤ
  formId : ℤ
  touchCount : ℤ
  lastTime : ℤ
  uid : ℤ
  deriving DecidableEq, Repr

/-- The tables of one kind in one database file, by start time. -/
abbrev Tables (Row : Type) := Std.TreeMap ℤ (List Row)

namespace Tables

variable {Row : Type}

/-- `select * from` a table that may not exist. -/
def rows (tables : Tables Row) (startTime : ℤ) : List Row := (tables[startTime]?).getD []

/-- `CREATE TABLE IF NOT EXISTS`. -/
def create (tables : Tables Row) (startTime : ℤ) : Tables Row :=
  if 0 ≤ startTime ∧ tables[startTime]? = none then tables.insert startTime [] else tables

/-- `drop table`, with its success. -/
def drop (tables : Tables Row) (startTime : ℤ) : Tables Row × Bool :=
  (tables.erase startTime, tables.contains startTime)

/-- `alter table … rename to …`, with its success. -/
def rename (tables : Tables Row) (oldTime newTime : ℤ) : Tables Row × Bool :=
  match tables[oldTime]?, tables[newTime]? with
  | some rows, none =>
    if 0 ≤ newTime then ((tables.erase oldTime).insert newTime rows, true) else (tables, false)
  | _, _ => (tables, false)

def modifyRows (tables : Tables Row) (startTime : ℤ) (f : List Row → List Row) : Tables Row :=
  match tables[startTime]? with
  | some rows => tables.insert startTime (f rows)
  | none => tables

variable (tables : Tables Row) (startTime newTime x : ℤ) (f : List Row → List Row)

theorem getElem?_create : (tables.create startTime)[x]? =
    if x = startTime ∧ 0 ≤ startTime then some (tables.rows x) else tables[x]? := by
  unfold create rows
  by_cases hx : x = startTime
  · subst hx
    cases h : tables[x]? with
    | none =>
      by_cases h0 : 0 ≤ x
      · simp [h0]
      · simp [h0, h]
    | some l => simp [h]
  · simp only [hx, false_and, if_false]
    split_ifs
    · simp [Std.TreeMap.getElem?_insert, Ne.symm hx]
    · rfl

theorem getElem?_drop : (tables.drop startTime).1[x]? =
    if x = startTime then none else tables[x]? := by
  by_cases hx : x = startTime
  · simp [drop, hx]
  · simp [drop, Std.TreeMap.getElem?_erase, hx, Ne.symm hx]

theorem getElem?_modifyRows : (tables.modifyRows startTime f)[x]? =
    if x = startTime then (tables[x]?).map f else tables[x]? := by
  unfold modifyRows
  split
  · by_cases hx : x = startTime
    · subst hx
      simp [*]
    · simp [Std.TreeMap.getElem?_insert, hx, Ne.symm hx]
  · by_cases hx : x = startTime
    · subst hx
      simp [*]
    · simp [hx]

theorem mem_modifyRows : x ∈ tables.modifyRows startTime f ↔ x ∈ tables := by
  rw [Std.TreeMap.mem_iff_isSome_getElem?, getElem?_modifyRows]
  split_ifs
  · rw [Option.isSome_map, Std.TreeMap.mem_iff_isSome_getElem?]
  · rw [Std.TreeMap.mem_iff_isSome_getElem?]

theorem mem_drop : x ∈ (tables.drop startTime).1 ↔ x ∈ tables ∧ x ≠ startTime := by
  rw [Std.TreeMap.mem_iff_isSome_getElem?, getElem?_drop, Std.TreeMap.mem_iff_isSome_getElem?]
  split_ifs with h
  · exact iff_of_false Bool.false_ne_true fun h' => h'.2 h
  · exact ⟨fun h' => ⟨h', h⟩, And.left⟩

theorem mem_rename_of_ne (h : x ∈ tables) (hx : x ≠ startTime) :
    x ∈ (tables.rename startTime newTime).1 := by
  unfold rename
  split
  · split_ifs
    · simp [Std.TreeMap.mem_insert, Std.TreeMap.mem_erase, h, Ne.symm hx]
    · exact h
  · exact h

theorem mem_rename (h : x ∈ (tables.rename startTime newTime).1) : x ∈ tables ∨ x = newTime := by
  unfold rename at h
  split at h
  · split_ifs at h
    · rcases Std.TreeMap.mem_insert.1 h with heq | h
      · exact .inr (Std.LawfulEqCmp.eq_of_compare heq).symm
      · exact .inl (Std.TreeMap.mem_of_mem_erase h)
    · exact .inl h
  · exact .inl h

theorem mem_rename_of_success (h : (tables.rename startTime newTime).2 = true) :
    newTime ∈ (tables.rename startTime newTime).1 := by
  unfold rename at h ⊢
  split at h
  · split_ifs at h ⊢
    simp [Std.TreeMap.mem_insert]
  · cases h

theorem rename_of_failure (h : (tables.rename startTime newTime).2 = false) :
    (tables.rename startTime newTime).1 = tables := by
  unfold rename at h ⊢
  split at h
  · split_ifs at h ⊢
    rfl
  · rfl

theorem size_rename_le : (tables.rename startTime newTime).1.size ≤ tables.size := by
  unfold rename
  split
  · rename_i hold hnew
    split_ifs
    · have hmem : startTime ∈ tables := by
        rw [Std.TreeMap.mem_iff_isSome_getElem?, hold]
        rfl
      have hpos : 0 < tables.size := by
        rw [← Std.TreeMap.length_keys]
        exact List.length_pos_of_mem (Std.TreeMap.mem_keys.2 hmem)
      refine (Std.TreeMap.size_insert_le).trans ?_
      rw [Std.TreeMap.size_erase, if_pos (Std.TreeMap.contains_iff_mem.2 hmem)]
      omega
    · exact le_rfl
  · exact le_rfl

theorem rows_eq_of_getElem? {tables' : Tables Row} (h : tables'[x]? = tables[x]?) :
    tables'.rows x = tables.rows x := by
  rw [rows, h, rows]

end Tables

/-- What the relational store does with a bound value that has no placeholder: the statement runs without it,
or is refused and leaves some number for the count of changed rows. -/
inductive SurplusValues where
  | ignored
  | refused (changeRow : ℤ)
  deriving DecidableEq

/-- The value that a bucket keeps of a column that is put twice. -/
inductive RepeatedPut where
  | first
  | last
  deriving DecidableEq

/-- How the relational store, which is not part of the sources, takes what it is given. -/
structure RdbStore where
  surplusValues : SurplusValues := .ignored
  repeatedPut : RepeatedPut := .last

/-- What the service's four package databases, the event database and the application-group
database hold. The tables of module and form records stand in order of creation, the order of
`sqlite_master`. -/
structure DatabaseFiles where
  packageTables : IntervalType → Tables PackageLogRow := fun _ => {}
  eventTables : Tables EventLogRow := {}
  moduleTables : List (ℤ × List ModuleRecordRow) := []
  formTables : List (ℤ × List FormRecordRow) := []
  rdbStore : RdbStore := {}

namespace CreatedTables

variable {Row : Type}

def rows (tables : List (ℤ × List Row)) (startTime : ℤ) : List Row :=
  (tables.lookup startTime).getD []

def create (tables : List (ℤ × List Row)) (startTime : ℤ) : List (ℤ × List Row) :=
  if 0 ≤ startTime ∧ tables.lookup startTime = none then tables ++ [(startTime, [])] else tables

def rename (tables : List (ℤ × List Row)) (oldTime newTime : ℤ) : List (ℤ × List Row) × Bool :=
  if (tables.lookup oldTime).isSome ∧ tables.lookup newTime = none ∧ 0 ≤ newTime then
    (tables.map fun table => if table.1 = oldTime then (newTime, table.2) else table, true)
  else (tables, false)

def modifyRows (tables : List (ℤ × List Row)) (startTime : ℤ) (f : List Row → List Row) :
    List (ℤ × List Row) :=
  tables.map fun table => if table.1 = startTime then (table.1, f table.2) else table

end CreatedTables

end DeviceUsageStats
