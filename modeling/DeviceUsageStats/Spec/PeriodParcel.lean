import DeviceUsageStats.Spec.HighFrequency
import DeviceUsageStats.Spec.Parcel

/-! How the hours of most use cross the process boundary (`Marshalling` and `Unmarshalling` of
`bundle_active_high_frequency_period.cpp`). -/

namespace DeviceUsageStats

open Streams

/-- A parcel with the reads that tell whether they found a value. -/
structure CheckedParcelOps (Parcel : Type) extends ParcelOps Parcel where
  tryReadUint32 : StateM Parcel (Option ℕ)
  tryReadInt32 : StateM Parcel (Option ℤ)

structure CheckedParcelOps.Lawful {Parcel : Type} (ops : CheckedParcelOps Parcel)
    (unread : Parcel → List ParcelValue) : Prop extends ops.toParcelOps.Lawful unread where
  tryReadUint32 : ∀ n, Reads unread ops.tryReadUint32 [.uint32 n] (some n)
  tryReadInt32 : ∀ n, Reads unread ops.tryReadInt32 [.int32 n] (some n)

def maxHourNum : ℕ := 24

namespace BundleActiveHighFrequencyPeriod

variable {Parcel : Type} (ops : CheckedParcelOps Parcel)

def marshalling (r : BundleActiveHighFrequencyPeriod) : StateM Parcel Bool :=
  if r.highFreqHours.length > maxHourNum then return false
  else do
    if ← writeAll ops.write [.string r.bundleName, .uint32 r.highFreqHours.length] then
      writeAll ops.write (r.highFreqHours.map .int32)
    else return false

/-- The loop of `Unmarshalling`, which ends with the first value that is not found. -/
def unmarshallingHours : ℕ → StateM Parcel (Option (List ℤ))
  | 0 => return some []
  | size + 1 => do
    match ← ops.tryReadInt32 with
    | none => return none
    | some tmp => return (← unmarshallingHours size).map (tmp :: ·)

/-- The allocation succeeds. -/
def unmarshalling : StateM Parcel (Option BundleActiveHighFrequencyPeriod) := do
  let bundleName ← ops.readString
  match ← ops.tryReadUint32 with
  | none => return none
  | some size =>
    if size > maxHourNum then return none
    else
      return (← unmarshallingHours ops size).map fun highFreqHours =>
        { bundleName := bundleName, highFreqHours := highFreqHours }

end BundleActiveHighFrequencyPeriod

end DeviceUsageStats
