import DeviceUsageStats.Proofs.ModuleParcel
import DeviceUsageStats.Proofs.TopHours
import DeviceUsageStats.Spec.PeriodParcel

/-! The round trip of the hours of most use. Writer and reader both refuse more hours than a day has, so
that neither ever refuses what the service selects. -/

namespace DeviceUsageStats

open Streams

namespace BundleActiveHighFrequencyPeriod

def fixedValues (r : BundleActiveHighFrequencyPeriod) : List ParcelValue :=
  [.string r.bundleName, .uint32 r.highFreqHours.length]

def values (r : BundleActiveHighFrequencyPeriod) : List ParcelValue :=
  r.fixedValues ++ r.highFreqHours.map .int32

variable {Parcel Parcel' : Type} {ops : CheckedParcelOps Parcel} {unread : Parcel → List ParcelValue}

/-! ### Writing -/

theorem run_marshalling {r : BundleActiveHighFrequencyPeriod} (few : r.highFreqHours.length ≤ maxHourNum)
    (p : Parcel) : (r.marshalling ops).run p = (writeAll ops.write r.values).run p := by
  unfold marshalling values
  rw [if_neg (not_lt.2 few), run_writeAll_append]
  change StateT.run (if ((writeAll ops.write r.fixedValues).run p).1 = true then _ else _)
    ((writeAll ops.write r.fixedValues).run p).2 = _
  split_ifs with haccepted
  · rfl
  · exact Prod.ext (Bool.eq_false_of_not_eq_true haccepted).symm rfl

theorem run_writeAll_marshalling {rs : List BundleActiveHighFrequencyPeriod}
    (few : ∀ r ∈ rs, r.highFreqHours.length ≤ maxHourNum) (p : Parcel) :
    (writeAll (marshalling ops) rs).run p = (writeAll ops.write (rs.flatMap values)).run p := by
  rw [← run_writeAll_flatMap]
  induction rs generalizing p with
  | nil => rfl
  | cons r rs ih =>
    obtain ⟨hr, hrs⟩ := List.forall_mem_cons.1 few
    rw [run_writeAll_cons, run_writeAll_cons, run_marshalling hr]
    split_ifs
    · exact ih hrs _
    · rfl

theorem few_of_accepted {rs : List BundleActiveHighFrequencyPeriod} {p : Parcel}
    (accepted : ((writeAll (marshalling ops) rs).run p).1 = true) :
    ∀ r ∈ rs, r.highFreqHours.length ≤ maxHourNum := by
  induction rs generalizing p with
  | nil => exact List.forall_mem_nil _
  | cons r rs ih =>
    rw [run_writeAll_cons] at accepted
    split_ifs at accepted with hr
    refine List.forall_mem_cons.2 ⟨?_, ih accepted⟩
    by_contra many
    unfold marshalling at hr
    rw [if_pos (not_le.1 many)] at hr
    cases hr

/-! ### Reading -/

theorem reads_unmarshallingHours (lawful : ops.Lawful unread) (hours : List ℤ) :
    Reads unread (unmarshallingHours ops hours.length) (hours.map .int32) (some hours) := by
  induction hours with
  | nil => exact Reads.pure _
  | cons hour hours ih =>
    refine (lawful.tryReadInt32 hour).bind ?_
    exact ih.map fun tail => tail.map (hour :: ·)

theorem reads_unmarshalling (lawful : ops.Lawful unread) {r : BundleActiveHighFrequencyPeriod}
    (few : r.highFreqHours.length ≤ maxHourNum) :
    Reads unread (unmarshalling ops) r.values (some r) := by
  refine (lawful.readString r.bundleName).bind ((lawful.tryReadUint32 _).bind ?_)
  simp only [if_neg (not_lt.2 few)]
  exact (reads_unmarshallingHours lawful r.highFreqHours).map fun hours =>
    hours.map (BundleActiveHighFrequencyPeriod.mk r.bundleName)

theorem length_unmarshallingHours (ops : CheckedParcelOps Parcel) (size : ℕ) (q : Parcel) :
    ∀ hours ∈ ((unmarshallingHours ops size).run q).1, hours.length = size := by
  induction size generalizing q with
  | zero =>
    intro hours h
    cases h
    rfl
  | succ size ih =>
    intro hours h
    rcases hread : ops.tryReadInt32.run q with ⟨tmp, q'⟩
    rw [unmarshallingHours, run_bind_of_run hread] at h
    cases tmp with
    | none => cases h
    | some tmp =>
      change hours ∈ ((unmarshallingHours ops size).run q').1.map (tmp :: ·) at h
      obtain ⟨tail, htail, rfl⟩ := Option.mem_map.1 h
      rw [List.length_cons, ih q' tail htail]

theorem few_of_unmarshalling (ops : CheckedParcelOps Parcel) (q : Parcel) :
    ∀ r ∈ ((unmarshalling ops).run q).1, r.highFreqHours.length ≤ maxHourNum := by
  intro r h
  rcases hname : ops.readString.run q with ⟨bundleName, q₁⟩
  rcases hsize : ops.tryReadUint32.run q₁ with ⟨size, q₂⟩
  rw [unmarshalling, run_bind_of_run hname, run_bind_of_run hsize] at h
  cases size with
  | none => cases h
  | some size =>
    simp only at h
    split_ifs at h with hmany
    · cases h
    · change r ∈ ((unmarshallingHours ops size).run q₂).1.map _ at h
      obtain ⟨hours, hhours, rfl⟩ := Option.mem_map.1 h
      rw [length_unmarshallingHours ops size q₂ hours hhours]
      exact not_lt.1 hmany

/-- A parcel of limited capacity with the reads that tell whether they found a value. -/
def checkedParcel (capacity : ℕ) : CheckedParcelOps (List ParcelValue) where
  toParcelOps := limitedParcel capacity
  tryReadUint32 := readFront none fun | .uint32 n => some (some n) | _ => none
  tryReadInt32 := readFront none fun | .int32 n => some (some n) | _ => none

theorem lawful_checkedParcel (capacity : ℕ) : (checkedParcel capacity).Lawful id where
  toLawful := lawful_limitedParcel capacity
  tryReadUint32 _ := reads_readFront rfl
  tryReadInt32 _ := reads_readFront rfl

/-! ### The round trip -/

variable (ops unread) in
/-- The periods are accepted one after another, and as many reads of what was added to the parcel give them
back and take no more. -/
def Crosses (rs : List BundleActiveHighFrequencyPeriod) (p : Parcel) : Prop :=
  ((writeAll (marshalling ops) rs).run p).1 = true ∧
    ∀ q rest,
      unread q = (unread ((writeAll (marshalling ops) rs).run p).2).drop (unread p).length ++ rest →
      ∃ q', (readTimes (unmarshalling ops) rs.length).run q = (rs.map some, q') ∧ unread q' = rest

theorem reads_periods (lawful : ops.Lawful unread) {rs : List BundleActiveHighFrequencyPeriod}
    (few : ∀ r ∈ rs, r.highFreqHours.length ≤ maxHourNum) :
    Reads unread (readTimes (unmarshalling ops) rs.length) (rs.flatMap values) (rs.map some) := by
  induction rs with
  | nil => exact Reads.pure []
  | cons r rs ih =>
    obtain ⟨hr, hrs⟩ := List.forall_mem_cons.1 few
    refine (reads_unmarshalling lawful hr).bind ?_
    exact (ih hrs).map fun rs' => some r :: rs'

theorem crosses_iff (lawful : ops.Lawful unread) {rs : List BundleActiveHighFrequencyPeriod} {p : Parcel}
    (room : ((writeAll ops.write (rs.flatMap values)).run p).1 = true) :
    Crosses ops unread rs p ↔ ∀ r ∈ rs, r.highFreqHours.length ≤ maxHourNum := by
  refine ⟨fun h => few_of_accepted h.1, fun few => ?_⟩
  unfold Crosses
  rw [run_writeAll_marshalling few, lawful.write.unread_writeAll room, List.drop_left]
  exact ⟨room, fun q rest h => reads_periods lawful few q rest h⟩

/-- Whatever a parcel holds, the periods that are read from it can be handed on. -/
theorem handedOn_crosses (ops' : CheckedParcelOps Parcel') (q : Parcel') (n : ℕ)
    (rs : List BundleActiveHighFrequencyPeriod) (lawful : ops.Lawful unread) (p : Parcel)
    (hread : ((readTimes (unmarshalling ops') n).run q).1 = rs.map some)
    (room : ((writeAll ops.write (rs.flatMap values)).run p).1 = true) : Crosses ops unread rs p := by
  rw [crosses_iff lawful room]
  clear room
  induction n generalizing q rs with
  | zero =>
    have hnil : rs = [] := List.map_eq_nil_iff.1 hread.symm
    rw [hnil]
    exact List.forall_mem_nil _
  | succ n ih =>
    change ((unmarshalling ops').run q).1 ::
      ((readTimes (unmarshalling ops') n).run ((unmarshalling ops').run q).2).1 = rs.map some at hread
    cases rs with
    | nil => cases hread
    | cons r rs =>
      rw [List.map_cons, List.cons.injEq] at hread
      exact List.forall_mem_cons.2 ⟨few_of_unmarshalling ops' q r hread.1, ih _ rs hread.2⟩

def mailPeriod : BundleActiveHighFrequencyPeriod :=
  { bundleName := "com.example.mail", highFreqHours := [9, 21] }

theorem handedOn_crosses_mail :
    Crosses (checkedParcel 100) id [mailPeriod, mailPeriod] [.int32 0] :=
  handedOn_crosses (checkedParcel 0) (mailPeriod.values ++ mailPeriod.values) 2 [mailPeriod, mailPeriod]
    (lawful_checkedParcel 100) [.int32 0] (by decide +kernel) (by decide +kernel)

end BundleActiveHighFrequencyPeriod

open BundleActiveHighFrequencyPeriod

variable {Parcel : Type} {ops : CheckedParcelOps Parcel} {unread : Parcel → List ParcelValue}

theorem Reported.few {config : AppHighFrequencyPeriodThresholdConfig} {app : String × AppUsage}
    {report : List BundleActiveHighFrequencyPeriod} (h : Reported config app report) :
    ∀ r ∈ report, r.highFreqHours.length ≤ maxHourNum := by
  cases h with
  | seldom _ => exact List.forall_mem_nil _
  | nothing _ _ => exact List.forall_mem_nil _
  | hours _ selected good =>
    rw [List.forall_mem_singleton, List.length_map]
    exact good.nodup.length_le_card.trans_eq (Fintype.card_fin _)

/-- What the service selects, whatever the sort does with ties and whatever the configuration says, crosses
the boundary. -/
theorem getFreqBundleHours_crosses (json : CJson) (roots : List json.Item) (std : StdSort)
    (appUsages : List (String × AppUsage)) (lawful : ops.Lawful unread) (p : Parcel) :
    ∃ periods,
      getFreqBundleHours std (BundleActiveConfigReader.loadConfig json roots) appUsages =
        some periods ∧
      (((writeAll ops.write (periods.flatMap values)).run p).1 = true → Crosses ops unread periods p) := by
  obtain ⟨reports, hrun, hreports⟩ := getFreqBundleHours_loaded json roots std appUsages
  refine ⟨reports.flatten, hrun, fun room => (crosses_iff lawful room).2 fun r hr => ?_⟩
  obtain ⟨report, hreport, hr⟩ := List.mem_flatten.1 hr
  obtain ⟨i, hi, rfl⟩ := List.getElem_of_mem hreport
  exact (hreports.get (by rw [hreports.length_eq]; exact hi) hi).few r hr

/-- A JSON library that finds nothing in any file. -/
def emptyJson : CJson where
  Item := Unit
  getObjectItem _ _ := none
  isObject _ := false
  isNumber _ := false
  valueint _ := 0

def mailUsage : AppUsage where
  dayUsage := Vector.replicate 7 1
  hourUsage := #v[mornings 1, mornings 1, mornings 0, mornings 0, mornings 0, mornings 0, mornings 0]
  hourTotalUse := #v[0, 0, 0, 0, 0, 0, 0, 0, 0, 7, 2, 0, 0, 0, 0, 0, 0, 0, 0, 0, 0, 0, 0, 0]
where
  mornings (ten : ℤ) : Vector ℤ numHourOneDay :=
    #v[0, 0, 0, 0, 0, 0, 0, 0, 0, 1, ten, 0, 0, 0, 0, 0, 0, 0, 0, 0, 0, 0, 0, 0]

theorem getFreqBundleHours_crosses_mail :
    Crosses (checkedParcel 3) id [{ bundleName := "com.example.mail", highFreqHours := [9] }] [] := by
  obtain ⟨periods, hrun, hcrosses⟩ := getFreqBundleHours_crosses emptyJson [] stableSort
    [("com.example.mail", mailUsage)] (lawful_checkedParcel 3) []
  have heval : getFreqBundleHours stableSort (BundleActiveConfigReader.loadConfig emptyJson [])
      [("com.example.mail", mailUsage)] =
      some [{ bundleName := "com.example.mail", highFreqHours := [9] }] := by decide +kernel
  rw [heval, Option.some.injEq] at hrun
  rw [hrun]
  exact hcrosses (by rw [← hrun]; decide +kernel)

end DeviceUsageStats
