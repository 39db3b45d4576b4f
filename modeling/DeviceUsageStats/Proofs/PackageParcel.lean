import DeviceUsageStats.Proofs.ModuleParcel
import DeviceUsageStats.Spec.PackageParcel

/-! The round trip of package statistics. The reader follows the writer value by value and so takes what was
written and no more, but the two leave out four of the fields that are printed. -/

namespace DeviceUsageStats

open Streams

namespace ServedPackageStats

def values (r : ServedPackageStats) : List ParcelValue :=
  [.string r.bundleName, .int64 r.beginTimeStamp, .int64 r.lastTimeUsed, .int64 r.totalInFrontTime,
    .int64 r.lastContiniousTaskUsed, .int64 r.totalContiniousTaskUsedTime, .int32 r.startCount,
    .int32 r.userId, .int32 r.appIndex]

/-- What the reader makes of the statistics. -/
def received (r : ServedPackageStats) : ServedPackageStats :=
  { r with endTimeStamp := 0, bundleStartedCount := 0, uid := 0, lastEvent := 0, abilities := {}
           longTimeTasks := {} }

/-- The fields that do not cross have their defaults. -/
structure LeftOutZero (r : ServedPackageStats) : Prop where
  endTimeStamp : r.endTimeStamp = 0
  bundleStartedCount : r.bundleStartedCount = 0
  uid : r.uid = 0
  lastEvent : r.lastEvent = 0

theorem packageStatsToJson_received_iff (r : ServedPackageStats) :
    r.received.packageStatsToJson = r.packageStatsToJson ↔ r.LeftOutZero := by
  refine ⟨fun h => ?_, fun h => ?_⟩
  · simp only [packageStatsToJson, received, List.cons.injEq, Prod.mk.injEq, JsonValue.number.injEq] at h
    exact ⟨h.2.2.1.2.symm, h.2.2.2.2.2.2.2.2.1.2.symm, h.2.2.2.2.2.2.2.2.2.2.2.1.2.symm,
      h.2.2.2.2.2.2.2.2.2.1.2.symm⟩
  · unfold packageStatsToJson received
    rw [h.endTimeStamp, h.bundleStartedCount, h.uid, h.lastEvent]

variable {Parcel : Type} {ops : ParcelOps Parcel} {unread : Parcel → List ParcelValue}

theorem reads_unmarshalling (lawful : ops.Lawful unread) (r : ServedPackageStats) :
    Reads unread (unmarshalling ops) r.values r.received :=
  (lawful.readString r.bundleName).bind <|
    (lawful.readInt64 r.beginTimeStamp).bind <|
      (lawful.readInt64 r.lastTimeUsed).bind <|
        (lawful.readInt64 r.totalInFrontTime).bind <|
          (lawful.readInt64 r.lastContiniousTaskUsed).bind <|
            (lawful.readInt64 r.totalContiniousTaskUsedTime).bind <|
              (lawful.readInt32 r.startCount).bind <|
                (lawful.readInt32 r.userId).bind <|
                  (lawful.readInt32 r.appIndex).bind (Reads.pure _)

theorem drop_unread_marshalling (lawful : ops.Lawful unread) {rs : List ServedPackageStats} {p : Parcel}
    (accepted : ((writeAll (marshalling ops) rs).run p).1 = true) :
    (unread ((writeAll (marshalling ops) rs).run p).2).drop (unread p).length = rs.flatMap values := by
  have hrun : (writeAll (marshalling ops) rs).run p = (writeAll ops.write (rs.flatMap values)).run p :=
    run_writeAll_flatMap values rs p
  rw [hrun] at accepted ⊢
  rw [lawful.write.unread_writeAll accepted, List.drop_left]

variable (ops unread) in
/-- As many reads as there are statistics give back what is printed of each and leave the rest. -/
def ReadsBack (rs : List ServedPackageStats) (q : Parcel) (rest : List ParcelValue) : Prop :=
  ∃ rs' q', (readTimes (unmarshalling ops) rs.length).run q = (rs', q') ∧
    rs'.map packageStatsToJson = rs.map packageStatsToJson ∧ unread q' = rest

theorem map_received_iff (rs : List ServedPackageStats) :
    (rs.map received).map packageStatsToJson = rs.map packageStatsToJson ↔ ∀ r ∈ rs, r.LeftOutZero := by
  rw [List.map_map, List.map_inj_left]
  exact forall₂_congr fun r _ => packageStatsToJson_received_iff r

/-- The statistics that one side has written come back to the other iff they have nothing in the fields that
are left out; the rest of the parcel stays unread either way. -/
theorem packageStats_readsBack_iff (lawful : ops.Lawful unread) (p q : Parcel) (rs : List ServedPackageStats)
    (rest : List ParcelValue) (accepted : ((writeAll (marshalling ops) rs).run p).1 = true)
    (h : unread q =
      (unread ((writeAll (marshalling ops) rs).run p).2).drop (unread p).length ++ rest) :
    (ReadsBack ops unread rs q rest ↔ ∀ r ∈ rs, r.LeftOutZero) ∧
      unread ((readTimes (unmarshalling ops) rs.length).run q).2 = rest := by
  rw [drop_unread_marshalling lawful accepted] at h
  obtain ⟨q', hrun, hrest⟩ :=
    Reads.times values received (reads_unmarshalling lawful) rs q rest h
  rw [hrun, ← map_received_iff]
  refine ⟨⟨?_, fun hprinted => ⟨_, q', hrun, hprinted, hrest⟩⟩, hrest⟩
  rintro ⟨rs', q'', hrun', hprinted, -⟩
  rw [hrun] at hrun'
  have hrs : rs.map received = rs' := congrArg Prod.fst hrun'
  rw [hrs]
  exact hprinted

def mailStats : ServedPackageStats :=
  { bundleName := "com.example.mail", beginTimeStamp := 1709280000000, lastTimeUsed := 1709280001000
    totalInFrontTime := 1000, startCount := 1, userId := 100 }

theorem packageStats_readsBack_mailStats :
    (ReadsBack (limitedParcel 100) id [mailStats, mailStats] (mailStats.values ++ mailStats.values) [] ↔
      ∀ r ∈ [mailStats, mailStats], r.LeftOutZero) ∧
    id ((readTimes (unmarshalling (limitedParcel 100)) 2).run
      (mailStats.values ++ mailStats.values)).2 = [] :=
  packageStats_readsBack_iff (lawful_limitedParcel 100) [] _ [mailStats, mailStats] [] (by decide +kernel)
    (by decide +kernel)

def mailStatsOfUid : ServedPackageStats := { mailStats with uid := 20010001 }

/-- The uid is printed but not written. -/
theorem not_readsBack_uid :
    ((writeAll (marshalling (limitedParcel 100)) [mailStatsOfUid]).run []).1 = true ∧
      ((writeAll (marshalling (limitedParcel 100)) [mailStatsOfUid]).run []).2 = mailStatsOfUid.values ∧
      ¬ ReadsBack (limitedParcel 100) id [mailStatsOfUid] mailStatsOfUid.values [] := by
  refine ⟨by decide +kernel, by decide +kernel, ?_⟩
  rintro ⟨rs', q', hrun, hprinted, -⟩
  have hback : ((readTimes (unmarshalling (limitedParcel 100)) 1).run mailStatsOfUid.values).1.map
      packageStatsToJson ≠ [packageStatsToJson mailStatsOfUid] := by decide +kernel
  refine hback (Eq.trans ?_ hprinted)
  exact congrArg (fun run => run.1.map packageStatsToJson) hrun

end ServedPackageStats

end DeviceUsageStats
