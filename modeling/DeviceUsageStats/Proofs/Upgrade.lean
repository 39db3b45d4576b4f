import DeviceUsageStats.Sanity.UpgradeStatements

/-! The upgrade can be repeated: ended between any two of its statements, as often as it may be, it leaves the
files in the end as one that ran through. The statements fill two columns that are added first, and what they
fill in does not depend on what stands there. -/

namespace DeviceUsageStats

open Restart UpgradeFiles

namespace UpgradeContext

variable {c : UpgradeContext} {files files' : UpgradeFiles} {names : StoredTable → List String}
  {table : StoredTable}

/-! ### The uids -/

/-- A table that gets its column, or a row of it that is visited for a user. -/
abbrev UidVisit := StoredTable × Option (ℤ × String)

/-- The statements of visits, from a map of uids that are known. -/
def uidStatements (c : UpgradeContext) (bundleNameUidMap : Std.TreeMap String ℤ) :
    List UidVisit → List UpgradeStatement
  | [] => []
  | (table, none) :: visits => .addUid table :: c.uidStatements bundleNameUidMap visits
  | (table, some (userId, bundleName)) :: visits =>
    match bundleNameUidMap[bundleName ++ toString userId]? with
    | none =>
      .updateUid table userId bundleName (c.getApplicationInfo bundleName userId) ::
        c.uidStatements (bundleNameUidMap.insert (bundleName ++ toString userId)
          (c.getApplicationInfo bundleName userId)) visits
    | some uid => .updateUid table userId bundleName uid :: c.uidStatements bundleNameUidMap visits

def visitUid (c : UpgradeContext) (r : Upgrading × Std.TreeMap String ℤ) :
    UidVisit → Upgrading × Std.TreeMap String ℤ
  | (table, none) => (r.1.exec exec (.addUid table), r.2)
  | (table, some (userId, bundleName)) => c.updateOldDataUidStep table userId r bundleName

theorem foldl_visitUid (r : Upgrading × Std.TreeMap String ℤ) (visits : List UidVisit) :
    (visits.foldl c.visitUid r).1 =
      { state := (c.uidStatements r.2 visits).foldl exec r.1.state
        statements := r.1.statements ++ c.uidStatements r.2 visits } := by
  induction visits generalizing r with
  | nil =>
    rw [uidStatements, List.append_nil]
    rfl
  | cons visit visits ih =>
    obtain ⟨table, row⟩ := visit
    cases row with
    | none =>
      rw [List.foldl_cons, ih, uidStatements]
      simp only [visitUid, Recorded.exec, List.foldl_cons, List.append_assoc, List.singleton_append]
    | some row =>
      obtain ⟨userId, bundleName⟩ := row
      rw [List.foldl_cons, ih, uidStatements]
      unfold visitUid updateOldDataUidStep
      simp only
      cases r.2[bundleName ++ toString userId]? with
      | none => simp only [Recorded.exec, List.foldl_cons, List.append_assoc, List.singleton_append]
      | some uid => simp only [Recorded.exec, List.foldl_cons, List.append_assoc, List.singleton_append]

theorem names_visitUid (r : Upgrading × Std.TreeMap String ℤ) (visits : List UidVisit) :
    (visits.foldl c.visitUid r).1.state.names = r.1.state.names := by
  rw [foldl_visitUid]
  exact names_foldl _

def rowVisits (c : UpgradeContext) (names : StoredTable → List String) (table : StoredTable) :
    List UidVisit :=
  c.activatedOsAccountIds.flatMap fun userId =>
    (names table).map fun bundleName => (table, some (userId, bundleName))

def uidVisits (c : UpgradeContext) (names : StoredTable → List String) : List UidVisit :=
  c.allTableName.flatMap fun table => (table, none) :: c.rowVisits names table

theorem foldl_updateOldDataUid {r : Upgrading × Std.TreeMap String ℤ} (hr : r.1.state.names = names)
    (table : StoredTable) (users : List ℤ) :
    users.foldl (c.updateOldDataUid table) r =
      (users.flatMap fun userId => (names table).map fun bundleName =>
        ((table, some (userId, bundleName)) : UidVisit)).foldl c.visitUid r := by
  induction users generalizing r with
  | nil => rfl
  | cons userId users ih =>
    have hstep : c.updateOldDataUid table r userId =
        ((names table).map fun bundleName => ((table, some (userId, bundleName)) : UidVisit)).foldl
          c.visitUid r := by
      rw [List.foldl_map, ← hr]
      rfl
    rw [List.foldl_cons, List.flatMap_cons, List.foldl_append, hstep]
    refine ih ?_
    rw [names_visitUid, hr]

theorem foldl_supportAppTwinStep {r : Upgrading × Std.TreeMap String ℤ} (hr : r.1.state.names = names)
    (tables : List StoredTable) :
    tables.foldl c.supportAppTwinStep r =
      (tables.flatMap fun table => (table, none) :: c.rowVisits names table).foldl c.visitUid r := by
  induction tables generalizing r with
  | nil => rfl
  | cons table tables ih =>
    have hadded : (c.visitUid r (table, none)).1.state.names = names :=
      (names_exec r.1.state (.addUid table)).trans hr
    have hstep : c.supportAppTwinStep r table =
        ((table, none) :: c.rowVisits names table).foldl c.visitUid r :=
      foldl_updateOldDataUid hadded table c.activatedOsAccountIds
    rw [List.foldl_cons, List.flatMap_cons, List.foldl_append, hstep]
    refine ih ?_
    rw [names_visitUid, hr]

def appTwin (c : UpgradeContext) : Program UpgradeFiles UpgradeStatement :=
  fun files => c.uidStatements {} (c.uidVisits files.names)

theorem implemented_supportAppTwin (c : UpgradeContext) :
    c.appTwin.Implemented exec c.supportAppTwin := by
  intro r
  have hnames : (r, ({} : Std.TreeMap String ℤ)).1.state.names = r.state.names := rfl
  unfold supportAppTwin
  rw [foldl_supportAppTwinStep hnames]
  exact foldl_visitUid (r, {}) _

theorem writes_uidStatements (known : Std.TreeMap String ℤ) (visits : List UidVisit) :
    ∀ st ∈ c.uidStatements known visits, st.writes = .uid := by
  induction visits generalizing known with
  | nil => simp [uidStatements]
  | cons visit visits ih =>
    obtain ⟨table, row⟩ := visit
    intro st hst
    cases row with
    | none =>
      rw [uidStatements] at hst
      rcases List.mem_cons.1 hst with rfl | hst
      · rfl
      · exact ih known st hst
    | some row =>
      obtain ⟨userId, bundleName⟩ := row
      rw [uidStatements] at hst
      cases hknown : known[bundleName ++ toString userId]? with
      | none =>
        simp only [hknown] at hst
        rcases List.mem_cons.1 hst with rfl | hst
        · rfl
        · exact ih _ st hst
      | some uid =>
        simp only [hknown] at hst
        rcases List.mem_cons.1 hst with rfl | hst
        · rfl
        · exact ih known st hst

/-- No row of the table is visited before the table. -/
def TableFirst (table : StoredTable) : List UidVisit → Prop
  | [] => True
  | (table', none) :: visits => table = table' ∨ TableFirst table visits
  | (table', some _) :: visits => table ≠ table' ∧ TableFirst table visits

theorem tableFirst_append {visits visits' : List UidVisit} (h : ∀ visit ∈ visits, table ≠ visit.1)
    (h' : TableFirst table visits') : TableFirst table (visits ++ visits') := by
  induction visits with
  | nil => exact h'
  | cons visit visits ih =>
    have htail := ih fun visit hvisit => h visit (List.mem_cons_of_mem _ hvisit)
    obtain ⟨table', row⟩ := visit
    cases row with
    | none => exact .inr htail
    | some row => exact ⟨h _ List.mem_cons_self, htail⟩

theorem tableFirst_uidVisits (table : StoredTable) : TableFirst table (c.uidVisits names) := by
  unfold uidVisits
  induction c.allTableName with
  | nil => trivial
  | cons table' tables ih =>
    rw [List.flatMap_cons, List.cons_append]
    by_cases ht : table = table'
    · exact .inl ht
    · refine .inr (tableFirst_append (fun visit hvisit => ?_) ih)
      obtain ⟨userId, -, hrow⟩ := List.mem_flatMap.1 hvisit
      obtain ⟨bundleName, -, rfl⟩ := List.mem_map.1 hrow
      exact ht

theorem addedFirst_uidStatements {visits : List UidVisit} (h : TableFirst table visits)
    (known : Std.TreeMap String ℤ) (row : StoredRow) :
    CellOp.AddedFirst ((c.uidStatements known visits).map (uidOp table row)) := by
  induction visits generalizing known with
  | nil => trivial
  | cons visit visits ih =>
    obtain ⟨table', visited⟩ := visit
    cases visited with
    | none =>
      rw [uidStatements, List.map_cons, uidOp]
      split_ifs with ht
      · trivial
      · exact ih (h.resolve_left ht) known
    | some visited =>
      obtain ⟨userId, bundleName⟩ := visited
      rw [uidStatements]
      cases known[bundleName ++ toString userId]? with
      | none =>
        rw [List.map_cons, uidOp, if_neg fun ht => h.1 ht.1]
        exact ih h.2 _
      | some uid =>
        rw [List.map_cons, uidOp, if_neg fun ht => h.1 ht.1]
        exact ih h.2 known

theorem restartable_appTwin (c : UpgradeContext) : c.appTwin.Restartable exec := by
  rintro files _ ⟨done, hdone, rfl⟩
  have hsame : c.appTwin (done.foldl exec files) = c.appTwin files := by
    rw [appTwin, appTwin, names_foldl]
  rw [Program.run, Program.run, hsame]
  exact foldl_uid_restart (writes_uidStatements _ _)
    (fun table row => addedFirst_uidStatements (tableFirst_uidVisits table) {} row) hdone

/-! ### The first-use times -/

/-- The statements of the visits of rows for a user, with the time that is carried from row to row. -/
def carriedStatements (allBundleFirstUseTime : Std.TreeMap String ℤ) (userId : ℤ) :
    ℤ → List StoredRow → List UpgradeStatement
  | _, [] => []
  | carried, row :: rows =>
    let firstUseTime := (allBundleFirstUseTime[getBundleUsageKey row.bundleName row.readUid]?).getD carried
    .updateFirstUseTime userId row.bundleName row.readUid firstUseTime ::
      carriedStatements allBundleFirstUseTime userId firstUseTime rows

theorem foldl_updateFirstUseTimeStep (all : Std.TreeMap String ℤ) (userId : ℤ) (r : ℤ × Upgrading)
    (rows : List StoredRow) :
    (rows.foldl (updateFirstUseTimeStep all userId) r).2 =
      { state := (carriedStatements all userId r.1 rows).foldl exec r.2.state
        statements := r.2.statements ++ carriedStatements all userId r.1 rows } := by
  induction rows generalizing r with
  | nil =>
    rw [carriedStatements, List.append_nil]
    rfl
  | cons row rows ih =>
    rw [List.foldl_cons, ih, carriedStatements]
    simp only [updateFirstUseTimeStep, Recorded.exec, List.foldl_cons, List.append_assoc,
      List.singleton_append]

def firstUseOf (c : UpgradeContext) (files : UpgradeFiles) (userId : ℤ) : List UpgradeStatement :=
  carriedStatements ((c.database files).getAllBundleFirstUseTime userId) userId maxEndTime
    (files.rows .bundleHistoryLog)

def firstUse (c : UpgradeContext) : Program UpgradeFiles UpgradeStatement := fun files =>
  if .bundleHistoryLog ∈ c.allTableName then
    .addFirstUseTime :: c.activatedOsAccountIds.flatMap (c.firstUseOf files)
  else []

theorem writes_carriedStatements (all : Std.TreeMap String ℤ) (userId carried : ℤ) (rows : List StoredRow) :
    ∀ st ∈ carriedStatements all userId carried rows, st.writes = .firstUseTime := by
  induction rows generalizing carried with
  | nil => simp [carriedStatements]
  | cons row rows ih =>
    intro st hst
    rw [carriedStatements] at hst
    rcases List.mem_cons.1 hst with rfl | hst
    · rfl
    · exact ih _ st hst

theorem writes_firstUse (files : UpgradeFiles) : ∀ st ∈ c.firstUse files, st.writes = .firstUseTime := by
  intro st hst
  unfold firstUse at hst
  split_ifs at hst with hhistory
  · rcases List.mem_cons.1 hst with rfl | hst
    · rfl
    · obtain ⟨userId, -, hst⟩ := List.mem_flatMap.1 hst
      exact writes_carriedStatements _ userId _ _ st hst
  · cases hst

/-! The statements do not depend on the first-use times that stand there. -/

theorem filterMap_unused {α : Type} {f : StoredRow → Option α}
    (hf : ∀ row : StoredRow, f { row with firstUseTime := none } = f row) (table : StoredTable) :
    (files.rows table).filterMap f = (files.unused table).filterMap f := by
  rw [UpgradeFiles.unused, List.filterMap_map]
  exact List.filterMap_congr fun row _ => (hf row).symm

theorem database_congr (h : files.unused = files'.unused) : c.database files = c.database files' := by
  unfold database
  simp only [filterMap_unused (f := StoredRow.packageLogRow?) fun _ => rfl,
    filterMap_unused (f := StoredRow.eventLogRow?) fun _ => rfl, h]

theorem carriedStatements_unused (all : Std.TreeMap String ℤ) (userId carried : ℤ) (rows : List StoredRow) :
    carriedStatements all userId carried (rows.map fun row => { row with firstUseTime := none }) =
      carriedStatements all userId carried rows := by
  induction rows generalizing carried with
  | nil => rfl
  | cons row rows ih =>
    rw [List.map_cons, carriedStatements, carriedStatements]
    exact congrArg _ (ih _)

theorem firstUseOf_congr (h : files.unused = files'.unused) (userId : ℤ) :
    c.firstUseOf files userId = c.firstUseOf files' userId := by
  have hrows := congrFun h .bundleHistoryLog
  rw [UpgradeFiles.unused, UpgradeFiles.unused] at hrows
  rw [firstUseOf, firstUseOf, database_congr h, ← carriedStatements_unused, hrows,
    carriedStatements_unused]

theorem foldl_updateFirstUseTime {r : Upgrading} (hr : r.state.unused = files.unused) (users : List ℤ) :
    users.foldl c.updateFirstUseTime r =
      { state := (users.flatMap (c.firstUseOf files)).foldl exec r.state
        statements := r.statements ++ users.flatMap (c.firstUseOf files) } := by
  induction users generalizing r with
  | nil =>
    rw [List.flatMap_nil, List.append_nil]
    rfl
  | cons userId users ih =>
    have hstep : c.updateFirstUseTime r userId =
        { state := (c.firstUseOf files userId).foldl exec r.state
          statements := r.statements ++ c.firstUseOf files userId } := by
      rw [← firstUseOf_congr hr userId]
      exact foldl_updateFirstUseTimeStep _ userId (maxEndTime, r) _
    have hkept : ((c.firstUseOf files userId).foldl exec r.state).unused = files.unused :=
      (unused_foldl (writes_carriedStatements _ userId _ _)).trans hr
    rw [List.foldl_cons, hstep, ih hkept, List.flatMap_cons]
    simp only [List.foldl_append, List.append_assoc]

theorem implemented_supportFirstUseTime (c : UpgradeContext) :
    c.firstUse.Implemented exec c.supportFirstUseTime := by
  intro r
  unfold supportFirstUseTime firstUse Program.run
  split_ifs
  · have hwrites : ∀ st ∈ [UpgradeStatement.addFirstUseTime], st.writes = .firstUseTime := by
      simp [UpgradeStatement.writes]
    have hadded : (r.state.exec .addFirstUseTime).unused = r.state.unused := unused_foldl hwrites
    rw [foldl_updateFirstUseTime hadded]
    simp only [Recorded.exec, List.append_assoc, List.singleton_append, List.foldl_cons]
  · rw [List.append_nil]
    rfl

theorem firstUse_congr (h : files.unused = files'.unused) : c.firstUse files = c.firstUse files' := by
  unfold firstUse
  simp only [funext (firstUseOf_congr (c := c) h)]

theorem addedFirst_firstUse (files : UpgradeFiles) (table : StoredTable) (row : StoredRow) :
    CellOp.AddedFirst ((c.firstUse files).map (firstUseOp table row)) := by
  unfold firstUse
  split_ifs
  · rw [List.map_cons, firstUseOp]
    split_ifs with ht
    · trivial
    · have hskip : ∀ statements : List UpgradeStatement, (∀ st ∈ statements, st.writes = .firstUseTime) →
          CellOp.AddedFirst (statements.map (firstUseOp table row)) := by
        intro statements
        induction statements with
        | nil => exact fun _ => trivial
        | cons st statements ih =>
          intro h
          have htail := ih fun st' hst' => h st' (List.mem_cons_of_mem _ hst')
          have hst := h st List.mem_cons_self
          cases st with
          | addFirstUseTime =>
            rw [List.map_cons, firstUseOp, if_neg ht]
            exact htail
          | updateFirstUseTime userId bundleName uid firstUseTime =>
            rw [List.map_cons, firstUseOp, if_neg fun hmatch => ht hmatch.1]
            exact htail
          | _ => cases hst
      refine hskip _ fun st hst => ?_
      obtain ⟨userId, -, hst⟩ := List.mem_flatMap.1 hst
      exact writes_carriedStatements _ userId _ _ st hst
  · trivial

theorem restartable_firstUse (c : UpgradeContext) : c.firstUse.Restartable exec := by
  rintro files _ ⟨done, hdone, rfl⟩
  have hsame : c.firstUse (done.foldl exec files) = c.firstUse files :=
    firstUse_congr (unused_foldl fun st hst => writes_firstUse files st (hdone.subset hst))
  rw [Program.run, Program.run, hsame]
  exact foldl_firstUse_restart (writes_firstUse files) (addedFirst_firstUse files) hdone

/-! ### The upgrade of either version -/

theorem settled_appTwin (h : c.firstUse.StopsIn exec (c.appTwin.run exec files) files') :
    c.appTwin.Settled exec files' := by
  obtain ⟨done, hdone, rfl⟩ := h
  set filled := c.appTwin.run exec files
  have hfilled : c.appTwin.Settled exec filled := (restartable_appTwin c).settled_run files
  have hwrites : ∀ st ∈ done, st.writes = .firstUseTime := fun st hst =>
    writes_firstUse filled st (hdone.subset hst)
  have hsame : c.appTwin (done.foldl exec filled) = c.appTwin filled := by
    rw [appTwin, appTwin, names_foldl]
  have huid : ∀ st ∈ c.appTwin filled, st.writes = .uid := writes_uidStatements _ _
  have hversion : ∀ st ∈ c.appTwin filled, st.writes ≠ .version := fun st hst => by simp [huid st hst]
  rw [Program.Settled, Program.run, hsame]
  refine ext_rows (version_foldl hversion) fun table => ?_
  have hrows : ((c.appTwin filled).foldl exec filled).rows table = filled.rows table := by
    rw [show (c.appTwin filled).foldl exec filled = filled from hfilled]
  rw [rows_foldl_uid huid] at hrows
  have hcell : ∀ row ∈ filled.rows table,
      ((c.appTwin filled).map (uidOp table row)).foldl CellOp.apply row.uid = row.uid := by
    intro row hrow
    have hrow := List.map_inj_left.1 (hrows.trans (List.map_id _).symm) row hrow
    exact congrArg StoredRow.uid hrow
  rw [rows_foldl_uid huid, rows_foldl_firstUse hwrites, List.map_map]
  refine List.map_congr_left fun row hrow => ?_
  exact congrArg (fun uid => { row with
    uid := uid
    firstUseTime := (done.map (firstUseOp table row)).foldl CellOp.apply row.firstUseTime })
      (hcell row hrow)

def upgrade (c : UpgradeContext) : Program UpgradeFiles UpgradeStatement := fun files =>
  if getVersionByFileInput files.version = 1 then c.appTwin.andThen exec c.firstUse files
  else if getVersionByFileInput files.version = 2 then c.firstUse files
  else []

theorem restartable_appTwin_firstUse (c : UpgradeContext) :
    (c.appTwin.andThen exec c.firstUse).Restartable exec :=
  (restartable_appTwin c).andThen (restartable_firstUse c) fun _ _ => settled_appTwin

theorem writes_upgrade (files : UpgradeFiles) : ∀ st ∈ c.upgrade files, st.writes ≠ .version := by
  intro st hst
  have huid : ∀ st ∈ c.appTwin files, st.writes = .uid := writes_uidStatements _ _
  unfold upgrade at hst
  split_ifs at hst
  · rcases List.mem_append.1 hst with hst | hst
    · simp [huid st hst]
    · simp [writes_firstUse _ st hst]
  · simp [writes_firstUse _ st hst]
  · cases hst

theorem restartable_upgrade (c : UpgradeContext) : c.upgrade.Restartable exec := by
  intro files files' hstop
  have hversion : files'.version = files.version := by
    obtain ⟨done, hdone, rfl⟩ := hstop
    exact version_foldl fun st hst => writes_upgrade files st (hdone.subset hst)
  have hboth := restartable_appTwin_firstUse c files files'
  have hfirst := restartable_firstUse c files files'
  unfold Program.StopsIn Program.run upgrade at *
  rw [hversion]
  split_ifs at hstop ⊢
  · exact hboth hstop
  · exact hfirst hstop
  · obtain ⟨done, hdone, rfl⟩ := hstop
    rw [List.prefix_nil.1 hdone]
    rfl

theorem implemented_upgradeDatabase (c : UpgradeContext) :
    c.upgrade.Implemented exec fun r =>
      if getVersionByFileInput r.state.version ≠ -1 ∧
          getVersionByFileInput r.state.version < currentVersion then
        c.upgradeDatabase (getVersionByFileInput r.state.version) currentVersion r
      else r := by
  intro r
  have htwin := (implemented_supportAppTwin c).comp (implemented_supportFirstUseTime c) r
  have hfirst := implemented_supportFirstUseTime c r
  by_cases hone : getVersionByFileInput r.state.version = 1
  · have hprogram : c.upgrade r.state = c.appTwin.andThen exec c.firstUse r.state := by
      rw [upgrade, if_pos hone]
    simp only [Program.run, hprogram, hone, upgradeDatabase, currentVersion]
    exact htwin
  · by_cases htwo : getVersionByFileInput r.state.version = 2
    · have hprogram : c.upgrade r.state = c.firstUse r.state := by
        rw [upgrade, if_neg hone, if_pos htwo]
      simp only [Program.run, hprogram, htwo, upgradeDatabase, currentVersion]
      exact hfirst
    · have hprogram : c.upgrade r.state = [] := by rw [upgrade, if_neg hone, if_neg htwo]
      simp only [Program.run, hprogram, upgradeDatabase, if_neg hone, if_neg htwo, ite_self,
        List.append_nil]
      rfl

/-! ### Starts -/

def stamp : Program UpgradeFiles UpgradeStatement := fun _ =>
  [.truncateVersion, .writeVersion ("version : " ++ toString currentVersion)]

theorem stopsIn_stamp (h : stamp.StopsIn exec files files') : files' = files ∨
    files' = { files with version := "" } ∨
    files' = { files with version := "version : " ++ toString currentVersion } := by
  obtain ⟨done, hdone, rfl⟩ := h
  unfold stamp at hdone
  rcases List.prefix_cons_iff.1 hdone with rfl | ⟨rest, rfl, hrest⟩
  · exact .inl rfl
  · rcases List.prefix_cons_iff.1 hrest with rfl | ⟨last, rfl, hlast⟩
    · exact .inr (.inl rfl)
    · rw [List.prefix_nil.1 hlast]
      exact .inr (.inr rfl)

theorem restartable_stamp : stamp.Restartable exec := by
  intro files files' h
  rcases stopsIn_stamp h with rfl | rfl | rfl <;> rfl

theorem getVersionByFileInput_current :
    getVersionByFileInput ("version : " ++ toString currentVersion) = 3 := by decide +kernel

/-- A file that is empty or has the current version asks for no upgrade. -/
theorem settled_upgrade (h : stamp.StopsIn exec (c.upgrade.run exec files) files') :
    c.upgrade.Settled exec files' := by
  rcases stopsIn_stamp h with rfl | rfl | rfl
  · exact (restartable_upgrade c).settled_run files
  · rw [Program.Settled, Program.run, upgrade, getVersionByFileInput, if_pos rfl]
    rfl
  · rw [Program.Settled, Program.run, upgrade, getVersionByFileInput_current]
    rfl

theorem implemented_checkDatabaseVersion (c : UpgradeContext) :
    (c.upgrade.andThen exec stamp).Implemented exec c.checkDatabaseVersion := by
  have hstamp : stamp.Implemented exec fun r : Upgrading =>
      (r.exec exec .truncateVersion).exec exec (.writeVersion ("version : " ++ toString currentVersion)) :=
    fun r => by simp only [Recorded.exec, List.append_assoc, List.singleton_append]; rfl
  exact (implemented_upgradeDatabase c).comp hstamp

theorem restartable_start (c : UpgradeContext) : (c.upgrade.andThen exec stamp).Restartable exec :=
  (restartable_upgrade c).andThen restartable_stamp fun _ _ => settled_upgrade

theorem start_eq (c : UpgradeContext) (files : UpgradeFiles) :
    c.start files = (c.upgrade.andThen exec stamp).run exec files := by
  rw [start, implemented_checkDatabaseVersion c]

/-- However often the upgrade is ended between two statements, the start that runs through leaves the files
as the first would have, and no later start changes them. -/
theorem start_restarts (h : Relation.ReflTransGen c.StopsIn files files') :
    c.start files' = c.start files ∧ ∀ c' : UpgradeContext, c'.start (c.start files) = c.start files := by
  have hstops : c.StopsIn = (c.upgrade.andThen exec stamp).StopsIn exec := by
    funext files files'
    unfold StopsIn Program.StopsIn
    rw [implemented_checkDatabaseVersion c]
    rfl
  refine ⟨?_, fun c' => ?_⟩
  · rw [start_eq, start_eq]
    exact (restartable_start c).attempts (hstops ▸ h)
  · have hversion : (c.start files).version = "version : " ++ toString currentVersion := rfl
    rw [start_eq c', Program.run_andThen]
    have hdone : c'.upgrade (c.start files) = [] := by
      rw [upgrade, hversion, getVersionByFileInput_current]
      rfl
    rw [Program.run, Program.run, hdone, stamp]
    exact ext_rows hversion.symm fun _ => rfl

/-! ### Who gets which uid -/

def visitOf : UpgradeStatement → UidVisit
  | .updateUid table userId bundleName _ => (table, some (userId, bundleName))
  | .addUid table => (table, none)
  | _ => (.bundleHistoryLog, none)

theorem map_visitOf (known : Std.TreeMap String ℤ) (visits : List UidVisit) :
    (c.uidStatements known visits).map visitOf = visits := by
  induction visits generalizing known with
  | nil => rfl
  | cons visit visits ih =>
    obtain ⟨table, row⟩ := visit
    cases row with
    | none => rw [uidStatements, List.map_cons, ih, visitOf]
    | some row =>
      obtain ⟨userId, bundleName⟩ := row
      rw [uidStatements]
      cases known[bundleName ++ toString userId]? with
      | none => simp only [List.map_cons, ih, visitOf]
      | some uid => simp only [List.map_cons, ih, visitOf]

/-- The uids in the map are those that the bundle manager gives to the visits with their keys. -/
def KnownRight (c : UpgradeContext) (visits : List UidVisit) (known : Std.TreeMap String ℤ) : Prop :=
  ∀ table userId bundleName, (table, some (userId, bundleName)) ∈ visits →
    ∀ uid ∈ known[bundleName ++ toString userId]?, uid = c.getApplicationInfo bundleName userId

/-- Visits with one key are answered with one uid. -/
def KeysApart (c : UpgradeContext) (visits : List UidVisit) : Prop :=
  ∀ table userId bundleName table' userId' bundleName', (table, some (userId, bundleName)) ∈ visits →
    (table', some (userId', bundleName')) ∈ visits →
      bundleName ++ toString userId = bundleName' ++ toString userId' →
        c.getApplicationInfo bundleName userId = c.getApplicationInfo bundleName' userId'

theorem uid_of_mem {all visits : List UidVisit} {known : Std.TreeMap String ℤ} (hkeys : c.KeysApart all)
    (hknown : c.KnownRight all known) (hvisits : ∀ visit ∈ visits, visit ∈ all) {userId uid : ℤ}
    {bundleName : String} (hst : .updateUid table userId bundleName uid ∈ c.uidStatements known visits) :
    uid = c.getApplicationInfo bundleName userId := by
  induction visits generalizing known with
  | nil => cases hst
  | cons visit visits ih =>
    have hrest : ∀ visit ∈ visits, visit ∈ all := fun visit hvisit =>
      hvisits visit (List.mem_cons_of_mem _ hvisit)
    obtain ⟨table', row⟩ := visit
    cases row with
    | none =>
      rw [uidStatements] at hst
      exact ih hknown hrest (by simpa using hst)
    | some row =>
      obtain ⟨userId', bundleName'⟩ := row
      have hvisit := hvisits _ List.mem_cons_self
      rw [uidStatements] at hst
      cases hfound : known[bundleName' ++ toString userId']? with
      | none =>
        simp only [hfound] at hst
        rcases List.mem_cons.1 hst with heq | hst
        · cases heq
          rfl
        · refine ih (fun table'' userId'' bundleName'' hvisit'' uid'' huid'' => ?_) hrest hst
          rw [Std.TreeMap.getElem?_insert] at huid''
          split_ifs at huid'' with hkey
          · rw [← Option.some_inj.1 huid'']
            exact hkeys _ _ _ _ _ _ hvisit hvisit'' (Std.LawfulEqCmp.eq_of_compare hkey)
          · exact hknown _ _ _ hvisit'' uid'' huid''
      | some uid' =>
        simp only [hfound] at hst
        rcases List.mem_cons.1 hst with heq | hst
        · cases heq
          exact hknown _ _ _ hvisit uid hfound
        · exact ih hknown hrest hst

theorem mem_uidVisits {userId : ℤ} {bundleName : String} :
    (table, some (userId, bundleName)) ∈ c.uidVisits names ↔
      table ∈ c.allTableName ∧ userId ∈ c.activatedOsAccountIds ∧ bundleName ∈ names table := by
  unfold uidVisits rowVisits
  simp only [List.mem_flatMap, List.mem_cons, List.mem_map, Prod.mk.injEq, reduceCtorEq, and_false,
    false_or, Option.some.injEq]
  constructor
  · rintro ⟨table', htable, userId', huser, bundleName', hname, rfl, rfl, rfl⟩
    exact ⟨htable, huser, hname⟩
  · rintro ⟨htable, huser, hname⟩
    exact ⟨table, htable, userId, huser, bundleName, hname, rfl, rfl, rfl⟩

theorem exists_statement {visits : List UidVisit} {visit : UidVisit} (h : visit ∈ visits)
    (known : Std.TreeMap String ℤ) : ∃ st ∈ c.uidStatements known visits, visitOf st = visit := by
  rw [← map_visitOf (c := c) known visits] at h
  exact List.mem_map.1 h

theorem visit_of_mem {visits : List UidVisit} {known : Std.TreeMap String ℤ} {st : UpgradeStatement}
    (h : st ∈ c.uidStatements known visits) : visitOf st ∈ visits := by
  have hmem := List.mem_map_of_mem (f := visitOf) h
  rwa [map_visitOf] at hmem

theorem uid_appTwin (hkeys : c.KeysApart (c.uidVisits files.names)) (htable : table ∈ c.allTableName)
    {row : StoredRow} (hrow : row ∈ files.rows table) :
    ((c.appTwin files).map (uidOp table row)).foldl CellOp.apply row.uid =
      some (if row.userId ∈ c.activatedOsAccountIds then
        c.getApplicationInfo row.bundleName row.userId else row.uid.getD (-1)) := by
  have hset : ∀ uid, .set uid ∈ (c.appTwin files).map (uidOp table row) →
      .updateUid table row.userId row.bundleName uid ∈ c.appTwin files := by
    intro uid huid
    obtain ⟨st, hst, hop⟩ := List.mem_map.1 huid
    rwa [← uidOp_eq_set_iff.1 hop]
  split_ifs with huser
  · have hvisit : (table, some (row.userId, row.bundleName)) ∈ c.uidVisits files.names :=
      mem_uidVisits.2 ⟨htable, huser, List.mem_map_of_mem hrow⟩
    have hvalue : ∀ uid, .updateUid table row.userId row.bundleName uid ∈ c.appTwin files →
        uid = c.getApplicationInfo row.bundleName row.userId := fun uid =>
      uid_of_mem hkeys (fun _ _ _ _ uid huid => by simp at huid) fun _ h => h
    refine CellOp.foldl_of_set (addedFirst_uidStatements (tableFirst_uidVisits table) {} row) ?_
      (fun uid huid => hvalue uid (hset uid huid)) row.uid
    obtain ⟨st, hst, hvisited⟩ := exists_statement hvisit {}
    cases st with
    | updateUid table' userId bundleName uid =>
      cases hvisited
      rw [← hvalue _ hst]
      exact List.mem_map.2 ⟨_, hst, uidOp_eq_set_iff.2 rfl⟩
    | _ => cases hvisited
  · refine CellOp.foldl_of_not_set ?_ (fun uid huid => ?_) (fun uid huid => ?_) row.uid
    · have hvisit : (table, none) ∈ c.uidVisits files.names :=
        List.mem_flatMap.2 ⟨table, htable, List.mem_cons_self⟩
      obtain ⟨st, hst, hvisited⟩ := exists_statement hvisit {}
      have hwrites : st.writes = .uid := writes_uidStatements _ _ st hst
      cases st with
      | addUid table' =>
        cases hvisited
        exact List.mem_map.2 ⟨_, hst, if_pos rfl⟩
      | updateUid table' userId bundleName uid => cases hvisited
      | _ => cases hwrites
    · obtain ⟨st, -, hop⟩ := List.mem_map.1 huid
      exact eq_of_uidOp_eq_add hop
    · exact huser (mem_uidVisits.1 (visit_of_mem (hset uid huid))).2.1

/-- After the upgrade of version 1 a row of an active account has the uid of its bundle for the account, any
other row the default; nothing else of user and bundle has changed. -/
theorem start_uid (hversion : getVersionByFileInput files.version = 1)
    (hkeys : c.KeysApart (c.uidVisits files.names)) (htable : table ∈ c.allTableName) :
    ((c.start files).rows table).map (fun row => (row.userId, row.bundleName, row.columns, row.uid)) =
      (files.rows table).map fun row =>
        (row.userId, row.bundleName, row.columns, some (if row.userId ∈ c.activatedOsAccountIds then
          c.getApplicationInfo row.bundleName row.userId else row.uid.getD (-1))) := by
  have hupgrade : c.upgrade files = c.appTwin.andThen exec c.firstUse files := by
    rw [upgrade, if_pos hversion]
  have hstart : (c.start files).rows =
      (c.firstUse.run exec (c.appTwin.run exec files)).rows := by
    rw [start_eq, Program.run_andThen, ← Program.run_andThen (p := c.appTwin), Program.run,
      rows_foldl_version (by simp [stamp, UpgradeStatement.writes])]
    rw [Program.run, hupgrade, Program.run]
  have huid : ∀ st ∈ c.appTwin files, st.writes = .uid := writes_uidStatements _ _
  rw [hstart, Program.run, rows_foldl_firstUse (writes_firstUse _), Program.run, rows_foldl_uid huid,
    List.map_map, List.map_map]
  refine List.map_congr_left fun row hrow => ?_
  exact congrArg (fun uid => (row.userId, row.bundleName, row.columns, uid))
    (uid_appTwin hkeys htable hrow)

/-- Files of version 1: an event of each of two users, and a bundle history. -/
def firstFiles : UpgradeFiles where
  version := "version : 1"
  rows := fun table => match table with
    | .eventLog 1000 =>
      [{ userId := 100, bundleName := "com.example.mail", columns := .eventLog .abilityForeground 500 "" },
        { userId := 101, bundleName := "com.example.mail"
          columns := .eventLog .abilityForeground 700 "" }]
    | .bundleHistoryLog => [{ userId := 100, bundleName := "com.example.mail" }]
    | _ => []

def firstContext : UpgradeContext where
  allTableName := [.eventLog 1000, .bundleHistoryLog]
  activatedOsAccountIds := [100]
  getApplicationInfo := fun _ userId => userId * 200000 + 10044

/-- Ended after two statements, then after four, then with the version file truncated. -/
def stoppedTwice : UpgradeFiles :=
  let files := ((firstContext.checkDatabaseVersion { state := firstFiles }).statements.take 2).foldl exec
    firstFiles
  ((firstContext.checkDatabaseVersion { state := files }).statements.take 4).foldl exec files

theorem start_restarts_twice : firstContext.start stoppedTwice = firstContext.start firstFiles ∧
    ∀ c' : UpgradeContext, c'.start (firstContext.start firstFiles) = firstContext.start firstFiles :=
  start_restarts (.tail (.single ⟨_, List.take_prefix 2 _, rfl⟩) ⟨_, List.take_prefix 4 _, rfl⟩)

theorem keysApart_firstFiles : firstContext.KeysApart (firstContext.uidVisits firstFiles.names) := by
  intro table userId bundleName table' userId' bundleName' hvisit hvisit' _
  have huser := (mem_uidVisits.1 hvisit).2.1
  have huser' := (mem_uidVisits.1 hvisit').2.1
  rw [List.mem_singleton.1 huser, List.mem_singleton.1 huser']
  rfl

theorem start_uid_first :
    ((firstContext.start firstFiles).rows (.eventLog 1000)).map
        (fun row => (row.userId, row.bundleName, row.columns, row.uid)) =
      [(100, "com.example.mail", .eventLog .abilityForeground 500 "", some 20010044),
        (101, "com.example.mail", .eventLog .abilityForeground 700 "", some (-1))] :=
  start_uid (by decide +kernel) keysApart_firstFiles List.mem_cons_self

end UpgradeContext

end DeviceUsageStats
