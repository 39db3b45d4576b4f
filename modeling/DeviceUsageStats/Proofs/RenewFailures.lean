import DeviceUsageStats.Spec.ServiceQuery
import DeviceUsageStats.Spec.StoreFailures

/-! The table names after a `RenewTableTime` with failing statements. A name follows its table only when
every statement up to the last index succeeds, so it is stale exactly if the table was renamed and a later
statement failed. -/

namespace DeviceUsageStats

namespace CreatedTables

theorem lookup_cons_if {Row : Type} (t : ℤ) (rows : List Row) (tables : List (ℤ × List Row))
    (x : ℤ) : ((t, rows) :: tables).lookup x = if x = t then some rows else tables.lookup x := by
  rw [List.lookup_cons]
  by_cases h : x = t
  · simp [h]
  · simp [h, beq_eq_false_iff_ne.2 h]

theorem lookup_renamed {Row : Type} (tables : List (ℤ × List Row)) {oldTime newTime : ℤ}
    (hfree : tables.lookup newTime = none) (x : ℤ) :
    (tables.map fun table => if table.1 = oldTime then (newTime, table.2) else table).lookup x =
      if x = newTime then tables.lookup oldTime
      else if x = oldTime then none else tables.lookup x := by
  induction tables with
  | nil => simp
  | cons table tables ih =>
    obtain ⟨t, rows⟩ := table
    rw [lookup_cons_if] at hfree
    split_ifs at hfree with htne
    rw [List.map_cons, lookup_cons_if, lookup_cons_if]
    by_cases ht : t = oldTime
    · rw [if_pos ht, lookup_cons_if, ih hfree]
      grind
    · rw [if_neg ht, lookup_cons_if, ih hfree]
      grind

/-- A rename that SQL makes: the table is there and the new name is free and has no sign. -/
def Renames {Row : Type} (tables : List (ℤ × List Row)) (oldTime newTime : ℤ) : Prop :=
  (tables.lookup oldTime).isSome ∧ tables.lookup newTime = none ∧ 0 ≤ newTime

theorem rename_of_renames {Row : Type} {tables : List (ℤ × List Row)} {oldTime newTime : ℤ}
    (h : Renames tables oldTime newTime) : (rename tables oldTime newTime).2 = true ∧
      ∀ x, (rename tables oldTime newTime).1.lookup x =
        if x = newTime then tables.lookup oldTime
        else if x = oldTime then none else tables.lookup x := by
  unfold Renames at h
  unfold rename
  rw [if_pos h]
  exact ⟨rfl, lookup_renamed tables h.2.1⟩

theorem rename_of_not_renames {Row : Type} {tables : List (ℤ × List Row)} {oldTime newTime : ℤ}
    (h : ¬ Renames tables oldTime newTime) : rename tables oldTime newTime = (tables, false) := by
  unfold Renames at h
  unfold rename
  rw [if_neg h]

theorem renamed_of_not {Row : Type} {tables : List (ℤ × List Row)} {oldTime newTime : ℤ} {ok : Bool}
    (h : ¬ (Renames tables oldTime newTime ∧ ok = true)) :
    (if ok = true then rename tables oldTime newTime else (tables, false)) = (tables, false) := by
  split_ifs with hok
  · exact rename_of_not_renames fun hrenames => h ⟨hrenames, hok⟩
  · rfl

end CreatedTables

namespace Tables

def Renames {Row : Type} (tables : Tables Row) (oldTime newTime : ℤ) : Prop :=
  (tables[oldTime]?).isSome ∧ tables[newTime]? = none ∧ 0 ≤ newTime

theorem rename_of_renames {Row : Type} {tables : Tables Row} {oldTime newTime : ℤ}
    (h : tables.Renames oldTime newTime) : (tables.rename oldTime newTime).2 = true ∧
      (tables.rename oldTime newTime).1[newTime]? = tables[oldTime]? ∧
      (oldTime ≠ newTime → (tables.rename oldTime newTime).1[oldTime]? = none) := by
  obtain ⟨hold, hnew, hpos⟩ := h
  obtain ⟨rows, hrows⟩ := Option.isSome_iff_exists.1 hold
  have hrename : tables.rename oldTime newTime =
      ((tables.erase oldTime).insert newTime rows, true) := by
    unfold rename
    simp only [hrows, hnew, if_pos hpos]
  rw [hrename]
  refine ⟨rfl, by simp [hrows], fun hne => ?_⟩
  simp [hne.symm]

theorem rename_of_not_renames {Row : Type} {tables : Tables Row} {oldTime newTime : ℤ}
    (h : ¬ tables.Renames oldTime newTime) : tables.rename oldTime newTime = (tables, false) := by
  unfold rename
  split
  · rename_i hold hnew
    split_ifs with hpos
    · exact absurd ⟨by simp [hold], hnew, hpos⟩ h
    · rfl
  · rfl

theorem renamed_of_not {Row : Type} {tables : Tables Row} {oldTime newTime : ℤ} {ok : Bool}
    (h : ¬ (tables.Renames oldTime newTime ∧ ok = true)) :
    (if ok = true then tables.rename oldTime newTime else (tables, false)) = (tables, false) := by
  split_ifs with hok
  · exact rename_of_not_renames fun hrenames => h ⟨hrenames, hok⟩
  · rfl

end Tables

/-- A name that is known afterwards names a table that holds what the table of the name before held. -/
def NameValid {Row : Type} (name name' : Option ℤ) (tables tables' : ℤ → Option (List Row)) : Prop :=
  ∀ t', name' = some t' → ∃ t rows, name = some t ∧ tables t = some rows ∧ tables' t' = some rows

theorem nameValid_none {Row : Type} (name : Option ℤ) (tables tables' : ℤ → Option (List Row)) :
    NameValid name none tables tables' :=
  fun _ h => (by cases h)

theorem nameValid_some_iff {Row : Type} (t t' : ℤ) (tables tables' : ℤ → Option (List Row)) :
    NameValid (some t) (some t') tables tables' ↔
      (tables t).isSome ∧ tables' t' = tables t := by
  constructor
  · intro h
    obtain ⟨_, rows, ht, hrows, hrows'⟩ := h t' rfl
    cases ht
    exact ⟨by rw [hrows]; rfl, hrows'.trans hrows.symm⟩
  · rintro ⟨hsome, heq⟩ _ ht'
    cases ht'
    obtain ⟨rows, hrows⟩ := Option.isSome_iff_exists.1 hsome
    exact ⟨t, rows, rfl, hrows, heq.trans hrows⟩

theorem nameValid_self_iff {Row : Type} (name : Option ℤ) (tables : ℤ → Option (List Row)) :
    NameValid name name tables tables ↔ ∀ t, name = some t → (tables t).isSome := by
  cases name with
  | none => exact iff_of_true (nameValid_none none _ _) fun _ h => (by cases h)
  | some t =>
    rw [nameValid_some_iff]
    simp

namespace DatabaseState

structure NamesValid (d d' : DatabaseState) : Prop where
  event : NameValid d.eventTableName d'.eventTableName (fun t => d.eventTables[t]?)
    fun t => d'.eventTables[t]?
  module : NameValid d.moduleRecordsTableName d'.moduleRecordsTableName
    (fun t => d.moduleTables.lookup t) fun t => d'.moduleTables.lookup t
  form : NameValid d.formRecordsTableName d'.formRecordsTableName
    (fun t => d.formTables.lookup t) fun t => d'.formTables.lookup t

variable (ok : RenewStep → Bool) (d : DatabaseState) (timeDiff : ℤ)

/-- The event table of the name exists, and if the rename moves it, its index follows. -/
def EventFollows : Prop :=
  ∀ t, d.eventTableName = some t → (d.eventTables[t]?).isSome ∧
    (d.eventTables.Renames t (t + timeDiff) → ok (.renameTable .event t (t + timeDiff)) = true →
      setNewIndex ok .event t (t + timeDiff) = true)

/-- The module and form tables of the names exist, and if the rename moves the module table, the form table
of the same time is that of the form name, moves too, and the indexes of both follow. -/
structure RecordsFollow : Prop where
  module : ∀ m, d.moduleRecordsTableName = some m → (d.moduleTables.lookup m).isSome
  form : ∀ f, d.formRecordsTableName = some f → (d.formTables.lookup f).isSome
  both : ∀ m f, d.moduleRecordsTableName = some m → d.formRecordsTableName = some f →
    CreatedTables.Renames d.moduleTables m (m + timeDiff) →
    ok (.renameTable .module m (m + timeDiff)) = true →
      d.formTables.lookup f = d.formTables.lookup m ∧
      CreatedTables.Renames d.formTables m (m + timeDiff) ∧
      ok (.renameTable .form m (m + timeDiff)) = true ∧
      setNewIndex ok .module m (m + timeDiff) = true ∧
      setNewIndex ok .form m (m + timeDiff) = true

/-! ### The event table -/

theorem nameValid_event_iff (hsign : ∀ t, d.eventTableName = some t → 0 ≤ t) :
    NameValid d.eventTableName (d.renewEventTableWith ok timeDiff).eventTableName
        (fun t => d.eventTables[t]?) (fun t => (d.renewEventTableWith ok timeDiff).eventTables[t]?) ↔
      d.EventFollows ok timeDiff := by
  unfold renewEventTableWith EventFollows
  cases hname : d.eventTableName with
  | none => exact iff_of_true (fun _ h => (by simp [hname] at h)) fun _ h => (by cases h)
  | some t =>
    have hparse : parseStartTime t = t := abs_of_nonneg (hsign t hname)
    simp only [hparse, Option.some_inj, forall_eq']
    by_cases hneg : t + timeDiff < 0
    · -- a dropped table leaves no name, and no rename is made
      have hrename : ¬ d.eventTables.Renames t (t + timeDiff) := fun h => not_le.2 hneg h.2.2
      simp only [if_pos hneg, hrename, false_implies, and_true]
      by_cases hok : ok (.dropTable .event t) = true
      · simp only [if_pos hok, Tables.drop]
        by_cases hmem : d.eventTables.contains t = true
        · simp only [if_pos hmem]
          exact iff_of_true (nameValid_none (some t) _ _)
            (Std.TreeMap.isSome_getElem?_eq_contains.trans hmem)
        · have hnone := Std.TreeMap.getElem?_eq_none_of_contains_eq_false
            (Bool.eq_false_iff.2 hmem)
          simp only [if_neg hmem]
          rw [nameValid_some_iff, hnone]
          exact iff_of_false (fun h => (by cases h.1)) fun h => (by cases h)
      · simp only [if_neg hok, Bool.false_eq_true, if_false]
        rw [nameValid_some_iff]
        exact and_iff_left rfl
    · simp only [if_neg hneg]
      by_cases hmoves : d.eventTables.Renames t (t + timeDiff) ∧
          ok (.renameTable .event t (t + timeDiff)) = true
      · obtain ⟨hrenames, hok⟩ := hmoves
        obtain ⟨hdone, hnew, hold⟩ := Tables.rename_of_renames hrenames
        simp only [if_pos hok, hdone, Bool.true_and]
        by_cases hindex : setNewIndex ok .event t (t + timeDiff) = true
        · simp only [if_pos hindex]
          rw [nameValid_some_iff, hnew]
          exact iff_of_true ⟨hrenames.1, rfl⟩ ⟨hrenames.1, fun _ _ => hindex⟩
        · -- the name stays behind its table
          have hne : t ≠ t + timeDiff := fun h => by
            have hsome := hrenames.1
            rw [h, hrenames.2.1] at hsome
            cases hsome
          simp only [if_neg hindex]
          rw [nameValid_some_iff, hold hne]
          refine iff_of_false (fun h => ?_) fun h => hindex (h.2 hrenames hok)
          rw [← h.2] at h
          cases h.1
      · simp only [Tables.renamed_of_not hmoves, Bool.false_and, Bool.false_eq_true, if_false]
        rw [nameValid_some_iff]
        exact and_congr_right fun _ => iff_of_true rfl fun h hok => absurd ⟨h, hok⟩ hmoves

/-! ### The module and form tables -/

theorem recordsFollow_of_names {m f : ℤ} (hm : d.moduleRecordsTableName = some m)
    (hf : d.formRecordsTableName = some f) :
    d.RecordsFollow ok timeDiff ↔ (d.moduleTables.lookup m).isSome ∧
      (d.formTables.lookup f).isSome ∧
      (CreatedTables.Renames d.moduleTables m (m + timeDiff) →
        ok (.renameTable .module m (m + timeDiff)) = true →
          d.formTables.lookup f = d.formTables.lookup m ∧
          CreatedTables.Renames d.formTables m (m + timeDiff) ∧
          ok (.renameTable .form m (m + timeDiff)) = true ∧
          setNewIndex ok .module m (m + timeDiff) = true ∧
          setNewIndex ok .form m (m + timeDiff) = true) := by
  refine ⟨fun h => ⟨h.module m hm, h.form f hf, h.both m f hm hf⟩, ?_⟩
  rintro ⟨hmodule, hform, hboth⟩
  refine ⟨fun m' hm' => ?_, fun f' hf' => ?_, fun m' f' hm' hf' => ?_⟩
  · rw [hm] at hm'
    cases hm'
    exact hmodule
  · rw [hf] at hf'
    cases hf'
    exact hform
  · rw [hm] at hm'
    rw [hf] at hf'
    cases hm'
    cases hf'
    exact hboth

theorem not_nameValid_renamed {Row : Type} {tables : List (ℤ × List Row)} {t t' : ℤ}
    (h : CreatedTables.Renames tables t t') :
    ¬ NameValid (some t) (some t) (fun k => tables.lookup k)
      (fun k => (CreatedTables.rename tables t t').1.lookup k) := by
  obtain ⟨-, hlookup⟩ := CreatedTables.rename_of_renames h
  have hne : t ≠ t' := fun heq => by
    have hsome := h.1
    rw [heq, h.2.1] at hsome
    cases hsome
  intro hvalid
  rw [nameValid_some_iff, hlookup, if_neg hne, if_pos rfl] at hvalid
  rw [← hvalid.2] at hvalid
  cases hvalid.1

theorem nameValid_records_iff (hsign : ∀ m, d.moduleRecordsTableName = some m → 0 ≤ m) :
    NameValid d.moduleRecordsTableName (d.renewRecordTablesWith ok timeDiff).moduleRecordsTableName
          (fun t => d.moduleTables.lookup t)
          (fun t => (d.renewRecordTablesWith ok timeDiff).moduleTables.lookup t) ∧
        NameValid d.formRecordsTableName (d.renewRecordTablesWith ok timeDiff).formRecordsTableName
          (fun t => d.formTables.lookup t)
          (fun t => (d.renewRecordTablesWith ok timeDiff).formTables.lookup t) ↔
      d.RecordsFollow ok timeDiff := by
  have hkept : (NameValid d.moduleRecordsTableName d.moduleRecordsTableName
          (fun t => d.moduleTables.lookup t) (fun t => d.moduleTables.lookup t) ∧
        NameValid d.formRecordsTableName d.formRecordsTableName
          (fun t => d.formTables.lookup t) (fun t => d.formTables.lookup t)) ↔
      (∀ m, d.moduleRecordsTableName = some m → (d.moduleTables.lookup m).isSome) ∧
        ∀ f, d.formRecordsTableName = some f → (d.formTables.lookup f).isSome := by
    rw [nameValid_self_iff, nameValid_self_iff]
  unfold renewRecordTablesWith
  cases hf : d.formRecordsTableName with
  | none =>
    simp only
    rw [hf] at hkept
    rw [hf, hkept]
    exact ⟨fun h => ⟨h.1, fun f hf' => (by simp [hf] at hf'), fun m f _ hf' => (by simp [hf] at hf')⟩,
      fun h => ⟨h.module, fun f hf' => (by cases hf')⟩⟩
  | some f =>
    cases hm : d.moduleRecordsTableName with
    | none =>
      simp only
      rw [hf, hm] at hkept
      rw [hf, hm, hkept]
      exact ⟨fun h => ⟨fun m hm' => (by simp [hm] at hm'), fun f' hf' => h.2 f' (hf ▸ hf'),
          fun m f hm' => (by simp [hm] at hm')⟩,
        fun h => ⟨fun m hm' => (by cases hm'), fun f' hf' => h.form f' (hf ▸ hf')⟩⟩
    | some m =>
      have hparse : parseStartTime m = m := abs_of_nonneg (hsign m hm)
      rw [recordsFollow_of_names ok d timeDiff hm hf]
      simp only [hparse]
      by_cases hmoves : CreatedTables.Renames d.moduleTables m (m + timeDiff) ∧
          ok (.renameTable .module m (m + timeDiff)) = true
      · obtain ⟨hrenames, hok⟩ := hmoves
        obtain ⟨hdone, hlookup⟩ := CreatedTables.rename_of_renames hrenames
        have hstale := not_nameValid_renamed hrenames
        simp only [if_pos hok, hdone, Bool.true_and]
        by_cases hforms : CreatedTables.Renames d.formTables m (m + timeDiff) ∧
            ok (.renameTable .form m (m + timeDiff)) = true
        · obtain ⟨hformRenames, hformOk⟩ := hforms
          obtain ⟨hformDone, hformLookup⟩ := CreatedTables.rename_of_renames hformRenames
          simp only [if_pos hformOk, hformDone, Bool.true_and]
          by_cases hindex : setNewIndex ok .module m (m + timeDiff) = true ∧
              setNewIndex ok .form m (m + timeDiff) = true
          · simp only [hindex, Bool.and_self, if_true]
            rw [nameValid_some_iff, nameValid_some_iff, hlookup, hformLookup, if_pos rfl, if_pos rfl]
            constructor
            · rintro ⟨⟨hmodule, -⟩, hform, heq⟩
              exact ⟨hmodule, hform, fun _ _ => ⟨heq.symm, hformRenames, hformOk, trivial, trivial⟩⟩
            · rintro ⟨hmodule, hform, hboth⟩
              exact ⟨⟨hmodule, rfl⟩, hform, (hboth hrenames hok).1.symm⟩
          · rw [← Bool.and_eq_true] at hindex
            simp only [if_neg hindex]
            exact iff_of_false (fun h => hstale h.1) fun h => hindex (by simp [(h.2.2 hrenames hok).2.2.2])
        · simp only [CreatedTables.renamed_of_not hforms, Bool.false_and, Bool.false_eq_true,
            if_false]
          exact iff_of_false (fun h => hstale h.1) fun h =>
            hforms ⟨(h.2.2 hrenames hok).2.1, (h.2.2 hrenames hok).2.2.1⟩
      · simp only [CreatedTables.renamed_of_not hmoves, Bool.false_and, Bool.false_eq_true, if_false]
        rw [nameValid_some_iff, nameValid_some_iff]
        constructor
        · rintro ⟨hmodule, hform⟩
          exact ⟨hmodule.1, hform.1, fun h hok => absurd ⟨h, hok⟩ hmoves⟩
        · rintro ⟨hmodule, hform, -⟩
          exact ⟨⟨hmodule, rfl⟩, hform, rfl⟩

/-! ### All tables -/

/-- What the names of the event, module and form tables rest on. -/
def named (d : DatabaseState) :=
  (d.eventTables, d.eventTableName, d.moduleTables, d.moduleRecordsTableName, d.formTables,
    d.formRecordsTableName, d.rdbStore)

theorem named_foldl {α : Type} {f : DatabaseState → α → DatabaseState}
    (h : ∀ d x, (f d x).named = d.named) (l : List α) (d : DatabaseState) :
    (l.foldl f d).named = d.named :=
  List.foldlRecOn (motive := fun d' : DatabaseState => d'.named = d.named) l f rfl
    fun _ ih x _ => (h _ x).trans ih

theorem named_handleTableInfo (d : DatabaseState) (i : IntervalType) :
    (d.handleTableInfo i).named = d.named := by
  unfold handleTableInfo
  split <;> rfl

theorem named_deleteExcessiveTableData (d : DatabaseState) (i : IntervalType) :
    (d.deleteExcessiveTableData i).named = d.named :=
  named_foldl (f := fun d t => d.deletePackageTable i t) (fun _ _ => rfl) _ d

theorem named_renewPackageTables (timeDiff : ℤ) (d : DatabaseState) (i : IntervalType) :
    (renewPackageTables timeDiff d i).named = d.named := by
  unfold renewPackageTables
  split_ifs
  · rfl
  · simp only
    rw [named_deleteExcessiveTableData, named_handleTableInfo]
    refine Eq.trans ?_ (named_foldl (f := renewPackageTable timeDiff i) (fun d x => ?_)
      (d.sortedTableArray i) d)
    · rfl
    · unfold renewPackageTable
      split_ifs <;> rfl

variable {ok d timeDiff} {d' : DatabaseState}

/-- The tables and names of the module and form records, and the store. -/
def records (d : DatabaseState) :=
  (d.moduleTables, d.moduleRecordsTableName, d.formTables, d.formRecordsTableName, d.rdbStore)

theorem records_of_named (h : d'.named = d.named) : d'.records = d.records := by
  simp only [named, Prod.mk.injEq] at h
  simp only [records, h]

theorem recordsFollow_congr (h : d'.records = d.records) :
    d'.RecordsFollow ok timeDiff ↔ d.RecordsFollow ok timeDiff := by
  simp only [records, Prod.mk.injEq] at h
  obtain ⟨htables, hname, hforms, hform, -⟩ := h
  constructor
  · rintro ⟨hmodule, hf, hboth⟩
    rw [htables, hname] at hmodule
    rw [hforms, hform] at hf
    rw [htables, hname, hforms, hform] at hboth
    exact ⟨hmodule, hf, hboth⟩
  · rintro ⟨hmodule, hf, hboth⟩
    rw [← htables, ← hname] at hmodule
    rw [← hforms, ← hform] at hf
    rw [← htables, ← hname, ← hforms, ← hform] at hboth
    exact ⟨hmodule, hf, hboth⟩

theorem records_renewEventTableWith (ok : RenewStep → Bool) (d : DatabaseState) (timeDiff : ℤ) :
    (d.renewEventTableWith ok timeDiff).records = d.records := by
  unfold renewEventTableWith
  split
  · rfl
  · simp only
    split_ifs <;> rfl

theorem events_renewRecordTablesWith (ok : RenewStep → Bool) (d : DatabaseState) (timeDiff : ℤ) :
    (d.renewRecordTablesWith ok timeDiff).eventTables = d.eventTables ∧
      (d.renewRecordTablesWith ok timeDiff).eventTableName = d.eventTableName := by
  unfold renewRecordTablesWith
  split <;> exact ⟨rfl, rfl⟩

/-- Whatever statements fail, the names are valid afterwards exactly if they were and every table that was
renamed is followed by its index and its name. -/
theorem namesValid_renewTableTimeWith_iff (ok : RenewStep → Bool) (d : DatabaseState) (timeDiff : ℤ)
    (hevent : ∀ t, d.eventTableName = some t → 0 ≤ t)
    (hmodule : ∀ m, d.moduleRecordsTableName = some m → 0 ≤ m) :
    NamesValid d (d.renewTableTimeWith ok timeDiff) ↔
      d.EventFollows ok timeDiff ∧ d.RecordsFollow ok timeDiff := by
  -- the package tables change none of the names
  set d₁ := IntervalType.all.foldl (renewPackageTables timeDiff) d with hd₁
  have hnamed : d₁.named = d.named :=
    named_foldl (named_renewPackageTables timeDiff) IntervalType.all d
  have hrecords : d₁.records = d.records := by
    simp only [named, records, Prod.mk.injEq] at hnamed ⊢
    exact hnamed.2.2
  set d₂ := d₁.renewEventTableWith ok timeDiff with hd₂
  have hrecords₂ : d₂.records = d.records :=
    (records_renewEventTableWith ok d₁ timeDiff).trans hrecords
  have hresult : d.renewTableTimeWith ok timeDiff = d₂.renewRecordTablesWith ok timeDiff := rfl
  obtain ⟨htables, hname⟩ := events_renewRecordTablesWith ok d₂ timeDiff
  simp only [named, Prod.mk.injEq] at hnamed
  obtain ⟨heventTables, heventName, -⟩ := hnamed
  have hvalidEvent := nameValid_event_iff ok d₁ timeDiff (by rwa [heventName])
  rw [← hd₂, heventTables, heventName] at hvalidEvent
  have hfollowEvent : d₁.EventFollows ok timeDiff ↔ d.EventFollows ok timeDiff := by
    unfold EventFollows
    rw [heventTables, heventName]
  have hmoduleName : d₂.moduleRecordsTableName = d.moduleRecordsTableName :=
    congrArg (fun r => r.2.1) hrecords₂
  have hvalidRecords := nameValid_records_iff ok d₂ timeDiff (by rwa [hmoduleName])
  rw [recordsFollow_congr hrecords₂, hmoduleName,
    show d₂.moduleTables = d.moduleTables from congrArg (fun r => r.1) hrecords₂,
    show d₂.formTables = d.formTables from congrArg (fun r => r.2.2.1) hrecords₂,
    show d₂.formRecordsTableName = d.formRecordsTableName from
      congrArg (fun r => r.2.2.2.1) hrecords₂] at hvalidRecords
  rw [← hfollowEvent, ← hvalidEvent, ← hvalidRecords, hresult]
  constructor
  · intro h
    refine ⟨?_, h.module, h.form⟩
    have := h.event
    rwa [htables, hname] at this
  · rintro ⟨hvalid, hvalidModule, hvalidForm⟩
    refine ⟨?_, hvalidModule, hvalidForm⟩
    rwa [htables, hname]

theorem renewTableTimeWith_true (d : DatabaseState) (timeDiff : ℤ) :
    d.renewTableTimeWith (fun _ => true) timeDiff = d.renewTableTime timeDiff := by
  have hevent : ∀ d : DatabaseState,
      d.renewEventTableWith (fun _ => true) timeDiff = d.renewEventTable timeDiff := by
    intro d
    unfold renewEventTableWith renewEventTable
    cases d.eventTableName with
    | none => rfl
    | some t => simp [setNewIndex]
  have hrecords : ∀ d : DatabaseState,
      d.renewRecordTablesWith (fun _ => true) timeDiff = d.renewRecordTables timeDiff := by
    intro d
    unfold renewRecordTablesWith renewRecordTables
    cases d.formRecordsTableName with
    | none => rfl
    | some f =>
      cases d.moduleRecordsTableName with
      | none => rfl
      | some m => simp [setNewIndex]
  unfold renewTableTimeWith renewTableTime
  simp only [hevent, hrecords]

end DatabaseState

namespace ServiceState

def savedService : ServiceState :=
  [ServiceOp.reportEvent
      { bundleName := "com.example.mail", abilityId := "1", eventId := .abilityForeground
        timeStamp := 1709280001000, uid := 20010001 },
    .reportModuleEvent
      { bundleName := "com.example.mail", moduleName := "entry", eventId := .abilityForeground
        timeStamp := 1709280001000, uid := 20010001 },
    .restoreStats true].foldl (ServiceState.apply utc) (init utc {} 100 false 1709280000000)

theorem run_savedService : Run utc (fun _ _ => True) savedService :=
  (Run.init {} 100 false 1709280000000 (by decide)).foldl utc _ (by decide)

/-- The index of the renamed event table cannot be created. -/
def indexFails (step : RenewStep) : Bool := step ≠ .createIndex .event 1709281200000

theorem names_savedService :
    savedService.databaseState.eventTableName = some 1709280000000 ∧
      savedService.databaseState.moduleRecordsTableName = some 1709251200000 := by
  decide +kernel

theorem namesValid_savedService :
    DatabaseState.NamesValid savedService.databaseState
        (savedService.databaseState.renewTableTimeWith indexFails 1200000) ↔
      savedService.databaseState.EventFollows indexFails 1200000 ∧
        savedService.databaseState.RecordsFollow indexFails 1200000 := by
  refine DatabaseState.namesValid_renewTableTimeWith_iff indexFails savedService.databaseState 1200000
    (fun t ht => ?_) fun m hm => ?_
  · rw [names_savedService.1] at ht
    cases ht
    decide
  · rw [names_savedService.2] at hm
    cases hm
    decide

/-- The event table was renamed, but the object still has its old name. -/
theorem not_namesValid_savedService :
    Run utc (fun _ _ => True) savedService ∧
      ¬ DatabaseState.NamesValid savedService.databaseState
        (savedService.databaseState.renewTableTimeWith indexFails 1200000) := by
  refine ⟨run_savedService, fun h => ?_⟩
  have hname : (savedService.databaseState.renewTableTimeWith indexFails 1200000).eventTableName =
      some 1709280000000 := by decide +kernel
  have hgone : (savedService.databaseState.renewTableTimeWith indexFails 1200000).eventTables[
      (1709280000000 : ℤ)]? = none := by decide +kernel
  obtain ⟨t, rows, -, -, hrows⟩ := h.event _ hname
  cases hgone.symm.trans hrows

end ServiceState

end DeviceUsageStats
