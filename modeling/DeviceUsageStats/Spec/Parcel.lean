import DeviceUsageStats.Spec.ModuleRecord
import DeviceUsageStats.Lib.Streams

/-! How module and form records cross the process boundary (`Marshalling` and `Unmarshalling` of
`bundle_active_module_record.cpp` and `bundle_active_form_record.cpp`). The parcel itself belongs to
the IPC library. -/

namespace DeviceUsageStats

open Streams

inductive ParcelValue where
  | string (s : String)
  | uint32 (n : ℕ)
  | int32 (n : ℤ)
  | int64 (n : ℤ)
  deriving DecidableEq, Repr

/-- The operations of a parcel: `WriteString`, `WriteUint32`, `WriteInt32`, `WriteInt64` and the reads. -/
structure ParcelOps (Parcel : Type) where
  write : ParcelValue → StateM Parcel Bool
  readString : StateM Parcel String
  readUint32 : StateM Parcel ℕ
  readInt32 : StateM Parcel ℤ
  readInt64 : StateM Parcel ℤ

/-- Values are read in the order in which they were written. Nothing is said of a refused write, nor of a
read that finds another value or none. -/
structure ParcelOps.Lawful {Parcel : Type} (ops : ParcelOps Parcel)
    (unread : Parcel → List ParcelValue) : Prop where
  write : Appends unread ops.write
  readString : ∀ s, Reads unread ops.readString [.string s] s
  readUint32 : ∀ n, Reads unread ops.readUint32 [.uint32 n] n
  readInt32 : ∀ n, Reads unread ops.readInt32 [.int32 n] n
  readInt64 : ∀ n, Reads unread ops.readInt64 [.int64 n] n

def maxFormNum : ℕ := 1000

/-- A module record with the fields that the bundle manager adds before it is served. -/
structure ServedModuleRecord extends BundleActiveModuleRecord where
  deviceId : String := ""
  abilityName : String := ""
  appLabelId : ℕ := 0
  labelId : ℕ := 0
  descriptionId : ℕ := 0
  abilityLableId : ℕ := 0
  abilityDescriptionId : ℕ := 0
  abilityIconId : ℕ := 0
  deriving DecidableEq, Repr

section Operations

variable {Parcel : Type} (ops : ParcelOps Parcel)

def BundleActiveFormRecord.marshalling (r : BundleActiveFormRecord) : StateM Parcel Bool :=
  writeAll ops.write
    [.string r.formName, .int32 r.formDimension, .int64 r.formId, .int64 r.formLastUsedTime,
      .int32 r.count]

/-- The allocation succeeds. -/
def BundleActiveFormRecord.unmarshalling : StateM Parcel BundleActiveFormRecord := do
  let formName ← ops.readString
  let formDimension ← ops.readInt32
  let formId ← ops.readInt64
  let formLastUsedTime ← ops.readInt64
  let count ← ops.readInt32
  return { formName := formName, formDimension := formDimension, formId := formId
           formLastUsedTime := formLastUsedTime, count := count }

namespace ServedModuleRecord

/-- The number of form records is written as a `uint32_t`; their results are not looked at. -/
def marshalling (r : ServedModuleRecord) : StateM Parcel Bool := do
  if ← writeAll ops.write
      [.string r.deviceId, .string r.bundleName, .string r.moduleName, .string r.abilityName,
        .uint32 r.appLabelId, .uint32 r.descriptionId, .uint32 r.abilityLableId,
        .uint32 r.abilityDescriptionId, .uint32 r.abilityIconId, .int32 r.launchedCount,
        .int64 r.lastModuleUsedTime, .uint32 (r.formRecords.length % 2 ^ 32), .int32 r.uid] then
    r.formRecords.forM fun formRecord => discard (formRecord.marshalling ops)
    return true
  else return false

/-- What `Unmarshalling` does behind the fixed fields. -/
def unmarshallingForms (result : ServedModuleRecord) (size : ℕ) :
    StateM Parcel (Option ServedModuleRecord) :=
  if size > maxFormNum then return none
  else do
    let formRecords ← readTimes (BundleActiveFormRecord.unmarshalling ops) size
    return some { result with formRecords := formRecords }

def unmarshalling : StateM Parcel (Option ServedModuleRecord) := do
  let deviceId ← ops.readString
  let bundleName ← ops.readString
  let moduleName ← ops.readString
  let abilityName ← ops.readString
  let appLabelId ← ops.readUint32
  let descriptionId ← ops.readUint32
  let abilityLableId ← ops.readUint32
  let abilityDescriptionId ← ops.readUint32
  let abilityIconId ← ops.readUint32
  let launchedCount ← ops.readInt32
  let lastModuleUsedTime ← ops.readInt64
  let size ← ops.readUint32
  let uid ← ops.readInt32
  unmarshallingForms ops
    { deviceId := deviceId, bundleName := bundleName, moduleName := moduleName
      abilityName := abilityName, appLabelId := appLabelId, descriptionId := descriptionId
      abilityLableId := abilityLableId, abilityDescriptionId := abilityDescriptionId
      abilityIconId := abilityIconId, launchedCount := launchedCount
      lastModuleUsedTime := lastModuleUsedTime, uid := uid } size

end ServedModuleRecord

end Operations

end DeviceUsageStats
