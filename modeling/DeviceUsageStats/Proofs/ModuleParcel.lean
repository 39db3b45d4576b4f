import DeviceUsageStats.Spec.Parcel

/-! The round trip of module records. The reader follows the writer field by field, so a record comes back
exactly if it has no label id, which is not written, and no more form records than the reader takes. -/

namespace DeviceUsageStats

open Streams

/-- A form record without what does not cross. -/
def BundleActiveFormRecord.served (r : BundleActiveFormRecord) : BundleActiveFormRecord :=
  { r with userId := -1, uid := -1 }

def BundleActiveFormRecord.values (r : BundleActiveFormRecord) : List ParcelValue :=
  [.string r.formName, .int32 r.formDimension, .int64 r.formId, .int64 r.formLastUsedTime,
    .int32 r.count]

variable {Parcel : Type} {ops : ParcelOps Parcel} {unread : Parcel → List ParcelValue}

theorem BundleActiveFormRecord.reads_unmarshalling (lawful : ops.Lawful unread)
    (r : BundleActiveFormRecord) : Reads unread (unmarshalling ops) r.values r.served :=
  (lawful.readString r.formName).bind <|
    (lawful.readInt32 r.formDimension).bind <|
      (lawful.readInt64 r.formId).bind <|
        (lawful.readInt64 r.formLastUsedTime).bind <|
          (lawful.readInt32 r.count).bind (Reads.pure _)

namespace ServedModuleRecord

def served (r : ServedModuleRecord) : ServedModuleRecord :=
  { r with userId := -1, formRecords := r.formRecords.map BundleActiveFormRecord.served }

/-- What the reader makes of a record: the label id is not written. -/
def received (r : ServedModuleRecord) : ServedModuleRecord :=
  { r.served with labelId := 0 }

theorem served_received_iff (r : ServedModuleRecord) :
    r.received.served = r.served ↔ r.labelId = 0 := by
  have hforms : (r.formRecords.map BundleActiveFormRecord.served).map
      BundleActiveFormRecord.served = r.formRecords.map BundleActiveFormRecord.served := by
    rw [List.map_map]
    rfl
  constructor
  · intro h
    exact (congrArg labelId h).symm
  · intro h
    unfold received served
    simp only [hforms, h]

def fixedValues (r : ServedModuleRecord) : List ParcelValue :=
  [.string r.deviceId, .string r.bundleName, .string r.moduleName, .string r.abilityName,
    .uint32 r.appLabelId, .uint32 r.descriptionId, .uint32 r.abilityLableId,
    .uint32 r.abilityDescriptionId, .uint32 r.abilityIconId, .int32 r.launchedCount,
    .int64 r.lastModuleUsedTime, .uint32 (r.formRecords.length % 2 ^ 32), .int32 r.uid]

def values (r : ServedModuleRecord) : List ParcelValue :=
  r.fixedValues ++ r.formRecords.flatMap BundleActiveFormRecord.values

/-! ### Writing -/

theorem run_forM_marshalling {formRecords : List BundleActiveFormRecord} {p : Parcel}
    (room : ((writeAll ops.write
      (formRecords.flatMap BundleActiveFormRecord.values)).run p).1 = true) :
    ((formRecords.forM fun formRecord => discard (formRecord.marshalling ops)).run p).2 =
      ((writeAll ops.write (formRecords.flatMap BundleActiveFormRecord.values)).run p).2 := by
  induction formRecords generalizing p with
  | nil => rfl
  | cons f formRecords ih =>
    rw [List.flatMap_cons] at room ⊢
    obtain ⟨hf, hrest⟩ := accepted_of_append room
    rw [run_writeAll_append, if_pos hf]
    exact ih hrest

theorem run_marshalling {r : ServedModuleRecord} {p : Parcel}
    (room : ((writeAll ops.write r.values).run p).1 = true) :
    ((r.marshalling ops).run p).1 = true ∧
      ((r.marshalling ops).run p).2 = ((writeAll ops.write r.values).run p).2 := by
  obtain ⟨hfixed, hforms⟩ := accepted_of_append room
  have hrun : (r.marshalling ops).run p = (true, ((r.formRecords.forM fun formRecord =>
      discard (formRecord.marshalling ops)).run ((writeAll ops.write r.fixedValues).run p).2).2) := by
    change StateT.run (if ((writeAll ops.write r.fixedValues).run p).1 = true then _ else _)
      ((writeAll ops.write r.fixedValues).run p).2 = _
    rw [if_pos hfixed]
    rfl
  rw [hrun, values, run_writeAll_append, if_pos hfixed]
  exact ⟨rfl, run_forM_marshalling hforms⟩

variable (ops unread) in
/-- The records with what each of them adds to the parcel. -/
def writings : Parcel → List ServedModuleRecord → List (ServedModuleRecord × List ParcelValue)
  | _, [] => []
  | p, r :: rs =>
    let p' := ((r.marshalling ops).run p).2
    (r, (unread p').drop (unread p).length) :: writings p' rs

variable (ops) in
def Accepted : Parcel → List ServedModuleRecord → Prop
  | _, [] => True
  | p, r :: rs =>
    ((r.marshalling ops).run p).1 = true ∧ Accepted ((r.marshalling ops).run p).2 rs

theorem writings_eq (lawful : ops.Lawful unread) {rs : List ServedModuleRecord} {p : Parcel}
    (room : ((writeAll ops.write (rs.flatMap values)).run p).1 = true) :
    Accepted ops p rs ∧ writings ops unread p rs = rs.map fun r => (r, r.values) := by
  induction rs generalizing p with
  | nil => exact ⟨trivial, rfl⟩
  | cons r rs ih =>
    rw [List.flatMap_cons] at room
    obtain ⟨hr, hrest⟩ := accepted_of_append room
    obtain ⟨haccepted, hp⟩ := run_marshalling hr
    rw [← hp] at hrest
    obtain ⟨hall, hwritings⟩ := ih hrest
    refine ⟨⟨haccepted, hall⟩, ?_⟩
    rw [writings, List.map_cons, hwritings, hp, lawful.write.unread_writeAll hr,
      List.drop_left]

/-! ### Reading -/

theorem run_unmarshalling (lawful : ops.Lawful unread) (r : ServedModuleRecord) {q : Parcel}
    {rest : List ParcelValue} (h : unread q = r.fixedValues ++ rest) :
    ∃ q', (unmarshalling ops).run q = (unmarshallingForms ops
        { r with labelId := 0, userId := -1, formRecords := [] }
        (r.formRecords.length % 2 ^ 32)).run q' ∧ unread q' = rest := by
  obtain ⟨q, h₁, h⟩ := (lawful.readString r.deviceId).run_bind _ h
  obtain ⟨q, h₂, h⟩ := (lawful.readString r.bundleName).run_bind _ h
  obtain ⟨q, h₃, h⟩ := (lawful.readString r.moduleName).run_bind _ h
  obtain ⟨q, h₄, h⟩ := (lawful.readString r.abilityName).run_bind _ h
  obtain ⟨q, h₅, h⟩ := (lawful.readUint32 r.appLabelId).run_bind _ h
  obtain ⟨q, h₆, h⟩ := (lawful.readUint32 r.descriptionId).run_bind _ h
  obtain ⟨q, h₇, h⟩ := (lawful.readUint32 r.abilityLableId).run_bind _ h
  obtain ⟨q, h₈, h⟩ := (lawful.readUint32 r.abilityDescriptionId).run_bind _ h
  obtain ⟨q, h₉, h⟩ := (lawful.readUint32 r.abilityIconId).run_bind _ h
  obtain ⟨q, h₁₀, h⟩ := (lawful.readInt32 r.launchedCount).run_bind _ h
  obtain ⟨q, h₁₁, h⟩ := (lawful.readInt64 r.lastModuleUsedTime).run_bind _ h
  obtain ⟨q, h₁₂, h⟩ := (lawful.readUint32 (r.formRecords.length % 2 ^ 32)).run_bind _ h
  obtain ⟨q, h₁₃, h⟩ := (lawful.readInt32 r.uid).run_bind _ h
  refine ⟨q, ?_, h⟩
  exact h₁.trans (h₂.trans (h₃.trans (h₄.trans (h₅.trans (h₆.trans (h₇.trans (h₈.trans (h₉.trans
    (h₁₀.trans (h₁₁.trans (h₁₂.trans h₁₃)))))))))))

theorem reads_unmarshalling (lawful : ops.Lawful unread) {r : ServedModuleRecord}
    (few : r.formRecords.length ≤ maxFormNum) :
    Reads unread (unmarshalling ops) r.values (some r.received) := by
  intro q rest h
  rw [values, List.append_assoc] at h
  obtain ⟨q', hrun, hq'⟩ := run_unmarshalling lawful r h
  have hsize : r.formRecords.length % 2 ^ 32 = r.formRecords.length :=
    Nat.mod_eq_of_lt (few.trans_lt (by decide))
  rw [hrun, hsize, unmarshallingForms, if_neg (not_lt.2 few)]
  obtain ⟨q'', hforms, hq''⟩ := (Reads.times BundleActiveFormRecord.values
    BundleActiveFormRecord.served (BundleActiveFormRecord.reads_unmarshalling lawful)
    r.formRecords).run_bind _ hq'
  exact ⟨q'', hforms, hq''⟩

/-- A record with more form records is refused, or comes back with fewer after a wrap of their number. -/
theorem not_served_of_many (lawful : ops.Lawful unread) {r : ServedModuleRecord}
    (many : maxFormNum < r.formRecords.length) {q : Parcel} {rest : List ParcelValue}
    (h : unread q = r.values ++ rest) :
    ¬ ∃ r' q', (unmarshalling ops).run q = (some r', q') ∧ r'.served = r.served := by
  rintro ⟨r', q', hrun, hserved⟩
  rw [values, List.append_assoc] at h
  obtain ⟨q₁, hfixed, -⟩ := run_unmarshalling lawful r h
  rw [hfixed, unmarshallingForms] at hrun
  split_ifs at hrun with hsize
  · cases hrun
  · have hlength := length_readTimes (BundleActiveFormRecord.unmarshalling ops)
      (r.formRecords.length % 2 ^ 32) q₁
    have hr' := (Option.some.inj (congrArg Prod.fst hrun)).symm
    have hforms := congrArg (·.formRecords.length) hserved
    rw [hr'] at hforms
    simp only [served, List.length_map] at hforms
    have hwrap : r.formRecords.length % 2 ^ 32 = r.formRecords.length := hlength.symm.trans hforms
    omega

variable (ops unread) in
/-- Consecutive reads accept the records, give back what is served of them and take what was written for
each, so that after the last one the rest is unread. -/
def ReadsBack (rest : List ParcelValue) :
    Parcel → List (ServedModuleRecord × List ParcelValue) → Prop
  | q, [] => unread q = rest
  | q, (r, _) :: l => ∃ r' q', (unmarshalling ops).run q = (some r', q') ∧ r'.served = r.served ∧
      unread q' = l.flatMap Prod.snd ++ rest ∧ ReadsBack rest q' l

theorem readsBack_values_iff (lawful : ops.Lawful unread) {rest : List ParcelValue}
    (rs : List ServedModuleRecord) {q : Parcel} (h : unread q = rs.flatMap values ++ rest) :
    ReadsBack ops unread rest q (rs.map fun r => (r, r.values)) ↔
      ∀ r ∈ rs, r.labelId = 0 ∧ r.formRecords.length ≤ maxFormNum := by
  induction rs generalizing q with
  | nil => exact iff_of_true h (by simp)
  | cons r rs ih =>
    rw [List.flatMap_cons, List.append_assoc] at h
    rw [List.map_cons, ReadsBack, List.forall_mem_cons]
    have hwritten : (rs.map fun r => (r, r.values)).flatMap Prod.snd = rs.flatMap values := by
      rw [List.flatMap_map]
    rw [hwritten]
    by_cases few : r.formRecords.length ≤ maxFormNum
    · obtain ⟨q', hrun, hq'⟩ := reads_unmarshalling lawful few q _ h
      constructor
      · rintro ⟨r', q'', hrun', hserved, hq'', hback⟩
        rw [hrun] at hrun'
        injection hrun' with hr' hq''
        injection hr' with hr'
        subst hr' hq''
        exact ⟨⟨(served_received_iff r).1 hserved, few⟩, (ih hq').1 hback⟩
      · rintro ⟨⟨hlabel, -⟩, hrest⟩
        exact ⟨_, q', hrun, (served_received_iff r).2 hlabel, hq', (ih hq').2 hrest⟩
    · refine iff_of_false ?_ fun hall => few hall.1.2
      rintro ⟨r', q', hrun, hserved, -⟩
      exact not_served_of_many lawful (not_le.1 few) h ⟨r', q', hrun, hserved⟩

/-- Where the parcel has room for all records, they are accepted, and they are read back exactly if none
of them has a label id or more form records than the reader takes. -/
theorem readsBack_iff (lawful : ops.Lawful unread) (p q : Parcel) (rs : List ServedModuleRecord)
    (rest : List ParcelValue) (room : ((writeAll ops.write (rs.flatMap values)).run p).1 = true)
    (h : unread q = (writings ops unread p rs).flatMap Prod.snd ++ rest) :
    Accepted ops p rs ∧ (ReadsBack ops unread rest q (writings ops unread p rs) ↔
      ∀ r ∈ rs, r.labelId = 0 ∧ r.formRecords.length ≤ maxFormNum) := by
  obtain ⟨haccepted, hwritings⟩ := writings_eq lawful room
  rw [hwritings, List.flatMap_map] at h
  rw [hwritings]
  exact ⟨haccepted, readsBack_values_iff lawful rs h⟩

end ServedModuleRecord

/-! ### Parcels of limited capacity -/

/-- Reads the first value if it is of the kind, else nothing. -/
def readFront {α : Type} (default : α) (kind : ParcelValue → Option α) :
    StateM (List ParcelValue) α := fun p =>
  match p with
  | [] => (default, p)
  | v :: rest =>
    match kind v with
    | some a => (a, rest)
    | none => (default, p)

/-- A parcel that takes values while it holds fewer than its capacity. -/
def limitedParcel (capacity : ℕ) : ParcelOps (List ParcelValue) where
  write v := fun p => if p.length < capacity then (true, p ++ [v]) else (false, p)
  readString := readFront "" fun | .string s => some s | _ => none
  readUint32 := readFront 0 fun | .uint32 n => some n | _ => none
  readInt32 := readFront 0 fun | .int32 n => some n | _ => none
  readInt64 := readFront 0 fun | .int64 n => some n | _ => none

theorem reads_readFront {α : Type} {default a : α} {kind : ParcelValue → Option α}
    {v : ParcelValue} (h : kind v = some a) : Reads id (readFront default kind) [v] a := by
  intro s rest hs
  rw [id, List.singleton_append] at hs
  refine ⟨rest, ?_, rfl⟩
  subst hs
  change (match kind v with | some a => (a, rest) | none => (default, v :: rest)) = _
  rw [h]

theorem lawful_limitedParcel (capacity : ℕ) : (limitedParcel capacity).Lawful id where
  write v p h := by
    change (if p.length < capacity then (true, p ++ [v]) else (false, p)).1 = true at h
    change (if p.length < capacity then (true, p ++ [v]) else (false, p)).2 = p ++ [v]
    by_cases hroom : p.length < capacity
    · rw [if_pos hroom]
    · rw [if_neg hroom] at h
      cases h
  readString s := reads_readFront rfl
  readUint32 n := reads_readFront rfl
  readInt32 n := reads_readFront rfl
  readInt64 n := reads_readFront rfl

namespace ServedModuleRecord

def mailRecord : ServedModuleRecord :=
  { bundleName := "com.example.mail", moduleName := "entry", launchedCount := 3
    lastModuleUsedTime := 1709280001000, userId := 100, uid := 20010001
    formRecords :=
      [{ formName := "inbox", formDimension := 2, formId := 7, formLastUsedTime := 1709280001000
         count := 1, userId := 100, uid := 20010001 }]
    deviceId := "device", abilityName := "Main", appLabelId := 11, descriptionId := 12
    abilityLableId := 13, abilityDescriptionId := 14, abilityIconId := 15 }

theorem readsBack_mailRecord :
    Accepted (limitedParcel 100) [] [mailRecord, mailRecord] ∧
      (ReadsBack (limitedParcel 100) id [] (mailRecord.values ++ mailRecord.values)
          (writings (limitedParcel 100) id [] [mailRecord, mailRecord]) ↔
        ∀ r ∈ [mailRecord, mailRecord], r.labelId = 0 ∧ r.formRecords.length ≤ maxFormNum) :=
  readsBack_iff (lawful_limitedParcel 100) [] _ [mailRecord, mailRecord] []
    (by decide +kernel) (by decide +kernel)

/-- The label id is served but not written. -/
theorem not_readsBack_labelled :
    let r := { mailRecord with labelId := 16 }
    Accepted (limitedParcel 100) [] [r] ∧
      ¬ ReadsBack (limitedParcel 100) id [] r.values (writings (limitedParcel 100) id [] [r]) := by
  refine ⟨⟨by decide +kernel, trivial⟩, ?_⟩
  rintro ⟨r', q', hrun, hserved, -, -⟩
  have hback : ((unmarshalling (limitedParcel 100)).run
      { mailRecord with labelId := 16 }.values).1.map labelId = some 0 := by decide +kernel
  rw [hrun] at hback
  have hlabel : r'.labelId = 16 := congrArg labelId hserved
  rw [Option.map_some, hlabel] at hback
  cases hback

/-- A form record for which the parcel has no room is lost, though its record is accepted. -/
theorem not_readsBack_full :
    Accepted (limitedParcel 13) [] [mailRecord] ∧
      ¬ ReadsBack (limitedParcel 13) id [] mailRecord.fixedValues
        (writings (limitedParcel 13) id [] [mailRecord]) := by
  refine ⟨⟨by decide +kernel, trivial⟩, ?_⟩
  rintro ⟨r', q', hrun, hserved, -, -⟩
  have hback : ((unmarshalling (limitedParcel 13)).run mailRecord.fixedValues).1.map
      (·.formRecords.map (·.formName)) = some [""] := by decide +kernel
  rw [hrun] at hback
  have hforms : r'.formRecords.map (·.formName) = ["inbox"] := by
    have := congrArg (·.formRecords.map (·.formName)) hserved
    simpa [served, List.map_map, BundleActiveFormRecord.served, mailRecord] using this
  rw [Option.map_some, hforms] at hback
  exact absurd hback (by decide)

end ServedModuleRecord

end DeviceUsageStats
