import DeviceUsageStats.Spec.Upgrade

/-! The statements of the upgrade, row by row: each writes the version file, the uids or the first-use
times, and leaves the rest alone. -/

namespace DeviceUsageStats

open Restart

/-! ### What the statements write -/

inductive WrittenPart where
  | uid
  | firstUseTime
  | version
  deriving DecidableEq

def UpgradeStatement.writes : UpgradeStatement → WrittenPart
  | .addUid _ => .uid
  | .updateUid _ _ _ _ => .uid
  | .addFirstUseTime => .firstUseTime
  | .updateFirstUseTime _ _ _ _ => .firstUseTime
  | .truncateVersion => .version
  | .writeVersion _ => .version

namespace UpgradeFiles

variable {files files' : UpgradeFiles} {st : UpgradeStatement} {statements done : List UpgradeStatement}
  {table : StoredTable}

theorem ext_rows (hversion : files.version = files'.version)
    (hrows : ∀ table, files.rows table = files'.rows table) : files = files' := by
  cases files
  cases files'
  simp only [mk.injEq]
  exact ⟨hversion, funext hrows⟩

/-- What a statement does to the uid of a row. -/
def uidOp (table : StoredTable) (row : StoredRow) : UpgradeStatement → CellOp ℤ
  | .addUid table' => if table = table' then .add (-1) else .skip
  | .updateUid table' userId bundleName uid =>
    if table = table' ∧ row.userId = userId ∧ row.bundleName = bundleName then .set uid else .skip
  | _ => .skip

theorem uidOp_eq_set_iff {row : StoredRow} {uid : ℤ} : uidOp table row st = .set uid ↔
    st = .updateUid table row.userId row.bundleName uid := by
  cases st with
  | addUid table' =>
    rw [uidOp]
    split_ifs <;> simp
  | updateUid table' userId bundleName uid' =>
    rw [uidOp]
    split_ifs with h
    · obtain ⟨rfl, rfl, rfl⟩ := h
      simp
    · refine iff_of_false (by simp) fun heq => h ?_
      cases heq
      exact ⟨rfl, rfl, rfl⟩
  | _ => simp [uidOp]

theorem eq_of_uidOp_eq_add {row : StoredRow} {uid : ℤ} (h : uidOp table row st = .add uid) : uid = -1 := by
  cases st with
  | addUid table' =>
    rw [uidOp] at h
    split_ifs at h
    cases h
    rfl
  | updateUid table' userId bundleName uid' =>
    rw [uidOp] at h
    split_ifs at h
  | _ => cases h

/-- What a statement does to the first-use time of a row. -/
def firstUseOp (table : StoredTable) (row : StoredRow) : UpgradeStatement → CellOp ℤ
  | .addFirstUseTime => if table = .bundleHistoryLog then .add maxEndTime else .skip
  | .updateFirstUseTime userId bundleName uid firstUseTime =>
    if table = .bundleHistoryLog ∧ row.userId = userId ∧ row.bundleName = bundleName ∧
      row.uid = some uid then .set firstUseTime else .skip
  | _ => .skip

theorem rows_exec (files : UpgradeFiles) (st : UpgradeStatement) (table : StoredTable) :
    (files.exec st).rows table = (files.rows table).map fun row =>
      { row with
        uid := (uidOp table row st).apply row.uid
        firstUseTime := (firstUseOp table row st).apply row.firstUseTime } := by
  have hid : ∀ rows : List StoredRow, rows.map (fun row => { row with }) = rows := fun rows => by
    rw [List.map_id'']
    exact fun _ => rfl
  cases st with
  | addUid table' =>
    unfold exec modifyRows uidOp firstUseOp
    simp only
    split_ifs with ht
    · rfl
    · exact (hid _).symm
  | updateUid table' userId bundleName uid =>
    unfold exec modifyRows uidOp firstUseOp
    simp only
    by_cases ht : table = table'
    · rw [if_pos ht]
      refine List.map_congr_left fun row _ => ?_
      simp only [ht, true_and]
      split_ifs <;> rfl
    · rw [if_neg ht]
      simp only [ht, false_and, if_false]
      exact (hid _).symm
  | addFirstUseTime =>
    unfold exec modifyRows uidOp firstUseOp
    simp only
    split_ifs with ht
    · rfl
    · exact (hid _).symm
  | updateFirstUseTime userId bundleName uid firstUseTime =>
    unfold exec modifyRows uidOp firstUseOp
    simp only
    by_cases ht : table = .bundleHistoryLog
    · rw [if_pos ht]
      refine List.map_congr_left fun row _ => ?_
      simp only [ht, true_and]
      split_ifs <;> rfl
    · rw [if_neg ht]
      simp only [ht, false_and, if_false]
      exact (hid _).symm
  | truncateVersion => exact (hid _).symm
  | writeVersion fileVersion => exact (hid _).symm

theorem version_exec (h : st.writes ≠ .version) : (files.exec st).version = files.version := by
  cases st with
  | truncateVersion => exact absurd rfl h
  | writeVersion fileVersion => exact absurd rfl h
  | _ => rfl

theorem version_foldl (h : ∀ st ∈ statements, st.writes ≠ .version) :
    (statements.foldl exec files).version = files.version :=
  List.foldlRecOn (motive := fun files' : UpgradeFiles => files'.version = files.version) statements
    exec rfl fun _ ih st hst => (version_exec (h st hst)).trans ih

theorem rows_foldl_version (h : ∀ st ∈ statements, st.writes = .version) :
    (statements.foldl exec files).rows = files.rows := by
  refine List.foldlRecOn (motive := fun files' : UpgradeFiles => files'.rows = files.rows) statements
    exec rfl fun files' ih st hst => Eq.trans ?_ ih
  have hst := h st hst
  cases st with
  | truncateVersion => rfl
  | writeVersion fileVersion => rfl
  | _ => cases hst

/-- Statements on the uids, row by row. -/
theorem rows_foldl_uid (h : ∀ st ∈ statements, st.writes = .uid) :
    (statements.foldl exec files).rows table = (files.rows table).map fun row =>
      { row with uid := (statements.map (uidOp table row)).foldl CellOp.apply row.uid } := by
  induction statements generalizing files with
  | nil => exact (List.map_id'' (fun _ => rfl) _).symm
  | cons st statements ih =>
    rw [List.foldl_cons, ih fun st' hst' => h st' (List.mem_cons_of_mem _ hst'), rows_exec, List.map_map]
    refine List.map_congr_left fun row _ => ?_
    have hst := h st List.mem_cons_self
    cases st with
    | addUid table' => rfl
    | updateUid table' userId bundleName uid => rfl
    | _ => cases hst

/-- Statements on the first-use times, row by row. -/
theorem rows_foldl_firstUse (h : ∀ st ∈ statements, st.writes = .firstUseTime) :
    (statements.foldl exec files).rows table = (files.rows table).map fun row =>
      { row with
        firstUseTime := (statements.map (firstUseOp table row)).foldl CellOp.apply row.firstUseTime } := by
  induction statements generalizing files with
  | nil => exact (List.map_id'' (fun _ => rfl) _).symm
  | cons st statements ih =>
    rw [List.foldl_cons, ih fun st' hst' => h st' (List.mem_cons_of_mem _ hst'), rows_exec, List.map_map]
    refine List.map_congr_left fun row _ => ?_
    have hst := h st List.mem_cons_self
    cases st with
    | addFirstUseTime => rfl
    | updateFirstUseTime userId bundleName uid firstUseTime => rfl
    | _ => cases hst

/-- Statements that add the uid column of a table before they fill it. -/
theorem foldl_uid_restart (h : ∀ st ∈ statements, st.writes = .uid)
    (hadded : ∀ table row, CellOp.AddedFirst (statements.map (uidOp table row)))
    (hdone : done <+: statements) :
    statements.foldl exec (done.foldl exec files) = statements.foldl exec files := by
  have hdone' : ∀ st ∈ done, st.writes = .uid := fun st hst => h st (hdone.subset hst)
  have hversion : ∀ st ∈ statements, st.writes ≠ .version := fun st hst => by simp [h st hst]
  refine ext_rows ?_ fun table => ?_
  · rw [version_foldl hversion, version_foldl hversion,
      version_foldl fun st hst => hversion st (hdone.subset hst)]
  · rw [rows_foldl_uid h, rows_foldl_uid h, rows_foldl_uid hdone', List.map_map]
    refine List.map_congr_left fun row _ => ?_
    have hrow := CellOp.foldl_restart (hadded table row) (hdone.map (uidOp table row)) row.uid
    exact congrArg (fun uid => { row with uid := uid }) hrow

theorem foldl_firstUse_restart (h : ∀ st ∈ statements, st.writes = .firstUseTime)
    (hadded : ∀ table row, CellOp.AddedFirst (statements.map (firstUseOp table row)))
    (hdone : done <+: statements) :
    statements.foldl exec (done.foldl exec files) = statements.foldl exec files := by
  have hdone' : ∀ st ∈ done, st.writes = .firstUseTime := fun st hst => h st (hdone.subset hst)
  have hversion : ∀ st ∈ statements, st.writes ≠ .version := fun st hst => by simp [h st hst]
  refine ext_rows ?_ fun table => ?_
  · rw [version_foldl hversion, version_foldl hversion,
      version_foldl fun st hst => hversion st (hdone.subset hst)]
  · rw [rows_foldl_firstUse h, rows_foldl_firstUse h, rows_foldl_firstUse hdone', List.map_map]
    refine List.map_congr_left fun row _ => ?_
    have hrow := CellOp.foldl_restart (hadded table row) (hdone.map (firstUseOp table row))
      row.firstUseTime
    exact congrArg (fun firstUseTime => { row with firstUseTime := firstUseTime }) hrow

/-! ### What the statements leave alone -/

/-- The bundle names of a table. -/
def names (files : UpgradeFiles) (table : StoredTable) : List String :=
  (files.rows table).map (·.bundleName)

theorem names_exec (files : UpgradeFiles) (st : UpgradeStatement) : (files.exec st).names = files.names := by
  funext table
  rw [names, rows_exec, List.map_map]
  rfl

theorem names_foldl (statements : List UpgradeStatement) :
    (statements.foldl exec files).names = files.names :=
  List.foldlRecOn (motive := fun files' : UpgradeFiles => files'.names = files.names) statements exec rfl
    fun files' ih st _ => (names_exec files' st).trans ih

/-- The rows without their first-use times. -/
def unused (files : UpgradeFiles) (table : StoredTable) : List StoredRow :=
  (files.rows table).map fun row => { row with firstUseTime := none }

theorem unused_foldl (h : ∀ st ∈ statements, st.writes = .firstUseTime) :
    (statements.foldl exec files).unused = files.unused := by
  funext table
  rw [unused, rows_foldl_firstUse h, List.map_map]
  rfl

end UpgradeFiles

end DeviceUsageStats
