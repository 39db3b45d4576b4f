import Mathlib
import DeviceUsageStats.Spec.Event

/-! A usage key is a name and a decimal uid with nothing between them: it has one reading for each length
of the uid, and one for each name. -/

namespace DeviceUsageStats

theorem getBundleUsageKey_inj {b b' : String} {uid uid' : ℤ}
    (hlength : (toString uid).length = (toString uid').length)
    (h : getBundleUsageKey b uid = getBundleUsageKey b' uid') : b = b' ∧ uid = uid' := by
  have hlist := congrArg String.toList h
  unfold getBundleUsageKey at hlist
  rw [String.toList_append, String.toList_append] at hlist
  obtain ⟨hname, huid⟩ := List.append_inj' hlist (by
    rwa [String.length_toList, String.length_toList])
  exact ⟨String.toList_injective hname, Int.repr_injective (String.toList_injective huid)⟩

theorem getBundleUsageKey_uid_inj {b : String} {uid uid' : ℤ}
    (h : getBundleUsageKey b uid = getBundleUsageKey b uid') : uid = uid' := by
  have hlist := congrArg String.toList h
  unfold getBundleUsageKey at hlist
  rw [String.toList_append, String.toList_append] at hlist
  exact Int.repr_injective (String.toList_injective (List.append_cancel_left hlist))

end DeviceUsageStats
