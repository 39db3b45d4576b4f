import DeviceUsageStats.Lib.TopElements
import DeviceUsageStats.Proofs.MergeStats
import DeviceUsageStats.Proofs.Service
import DeviceUsageStats.Proofs.TopHours

/-! The records that were used most. The bundles started most often are those with the greatest sums of
starts over the queried days, and the modules used last come with their forms by clicks. -/

namespace DeviceUsageStats

open TopElements (IsTop isTop_take)

def startsOf (packageStats : List BundleActivePackageStats) (identity : String × ℤ) : ℤ :=
  ((packageStats.filter (·.identity = identity)).map (·.startCount)).sum

namespace BundleActiveService

variable {σ : Type}

theorem startCount_merged {packageStats : List BundleActivePackageStats}
    (hkeys : KeysTellApart packageStats) {r : BundleActivePackageStats}
    (hr : r ∈ mergePackageStats packageStats) : r.startCount = startsOf packageStats r.identity := by
  obtain ⟨k, hk⟩ := mem_mergePackageStats.1 hr
  exact (hkeys.entry hk).2.2.1.startCount

/-- Each bundle with the sum of its starts, none twice, in descending order; one is left out only if the
list is full and the bundle was started no more often than any in it. -/
structure MostStarted (found : List BundleActivePackageStats) (maxNum : ℤ)
    (results : List BundleActivePackageStats) : Prop where
  length : (results.length : ℤ) ≤ maxNum
  known : ∀ r ∈ results, r.identity ∈ found.map (·.identity)
  nodup : (results.map (·.identity)).Nodup
  sorted : results.Pairwise fun a b => b.startCount ≤ a.startCount
  starts : ∀ r ∈ results, r.startCount = startsOf found r.identity
  omitted : ∀ packageStat ∈ found, packageStat.identity ∉ results.map (·.identity) →
    (results.length : ℤ) = maxNum ∧ ∀ r ∈ results, startsOf found packageStat.identity ≤ r.startCount

theorem mostStarted_of_isTop {found results : List BundleActivePackageStats} {maxNum : ℤ}
    (hkeys : KeysTellApart found) (hnum : 0 < maxNum)
    (htop : IsTop (fun r : BundleActivePackageStats => r.startCount) maxNum.toNat
      (mergePackageStats found) results) : MostStarted found maxNum results := by
  have hlength := htop.length
  refine ⟨by omega, fun r hr => ?_, htop.nodup_map hkeys.nodup_identity, htop.sorted, ?_, ?_⟩
  · exact (hkeys.mem_identity r.identity).1 (List.mem_map_of_mem (htop.mem hr))
  · intro r hr
    exact startCount_merged hkeys (htop.mem hr)
  · intro packageStat hmem hnot
    obtain ⟨m, hm, hid⟩ := List.mem_map.1
      ((hkeys.mem_identity packageStat.identity).2 (List.mem_map_of_mem hmem))
    have homitted : m ∉ results := fun hin => hnot (hid ▸ List.mem_map_of_mem hin)
    obtain ⟨hle, hfull⟩ := htop.omitted hm homitted
    refine ⟨by omega, fun r hr => ?_⟩
    rw [← hid, ← startCount_merged hkeys hm]
    exact hle r hr

/-- The reply to a permitted query for the bundles started most often in the last days. -/
theorem queryHighFrequencyUsageBundleInfos_top (core : CoreCalls σ) (std : StdSort) (caller : Caller)
    (s : σ) {userId maxNum queryDayRange now ret : ℤ} {found : List BundleActivePackageStats} {s' : σ}
    (hcaller : caller.MayQuery) (hnum : 0 < maxNum)
    (hdays : 0 < queryDayRange ∧ queryDayRange ≤ topnQueryMaxDayRange)
    (hfound : core.queryBundleStatsInfos userId 0 (now - queryDayRange * 24 * 60 * 60 * 1000) now "" s =
      ((ret, found), s')) (hkeys : KeysTellApart found) :
    ∃ results, handle core std caller s
        (.queryHighFrequencyUsageBundleInfos userId maxNum queryDayRange now) =
      (.packageStats ret results, s') ∧ MostStarted found maxNum results := by
  obtain ⟨hpos, hmax⟩ := hdays
  have hcheck := checkSystemAppOrNativePermission_ok.2 hcaller
  simp only [handle, queryHighFrequencyUsageBundleInfos, permitted, hcheck, hfound]
  rw [if_neg (by omega), if_pos trivial]
  refine ⟨_, rfl, mostStarted_of_isTop hkeys hnum (isTop_take (std.perm _ _) ?_)⟩
  exact std.sorted (fun r : BundleActivePackageStats => r.startCount) _

def shell : Caller where
  tokenId := 5
  tokenType := .tokenShell
  tokenTypeFlag := .tokenShell
  hasPermission := true
  isSystemApp := false
  processName := "hdcd"
  bundleName := ""
  getUserIdRet := 0
  userId := 100

/-- The rows of two days: the mail is started twice and three times, the maps four times. -/
def startedRows : List BundleActivePackageStats :=
  [{ bundleName := "com.example.mail", uid := 20010001, startCount := 2 },
    { bundleName := "com.example.maps", uid := 20010003, startCount := 4 },
    { bundleName := "com.example.mail", uid := 20010001, startCount := 3 }]

theorem queryHighFrequencyUsageBundleInfos_top_one :
    ∃ results, handle { silent with
          queryBundleStatsInfos := fun _ _ _ _ _ s => ((0, startedRows), s) } stableSort shell ()
        (.queryHighFrequencyUsageBundleInfos 100 1 7 1709251200000) =
      (.packageStats 0 results, ()) ∧ MostStarted startedRows 1 results :=
  queryHighFrequencyUsageBundleInfos_top _ stableSort shell () (by decide) (by decide) (by decide) rfl
    (by decide +kernel)

end BundleActiveService

/-! ### Modules -/

namespace ServiceState

/-- The records of the modules used last, in descending order of their last use; each has its own forms, in
descending order of their clicks. -/
theorem queryModuleUsageRecords_top (std : StdSort) (s : ServiceState) (maxNum : ℤ) :
    ∃ chosen, IsTop (fun r : BundleActiveModuleRecord => r.lastModuleUsedTime) maxNum.toNat
        (s.moduleRecords.toList.map Prod.snd) chosen ∧
      List.Forall₂ (fun r result : BundleActiveModuleRecord =>
        result = { r with formRecords := result.formRecords } ∧
        result.formRecords.Perm r.formRecords ∧
        result.formRecords.Pairwise fun a b => b.count ≤ a.count)
        chosen (s.queryModuleUsageRecords std maxNum) := by
  refine ⟨_, isTop_take (std.perm _ _) (std.sorted (fun r : BundleActiveModuleRecord => r.lastModuleUsedTime) _), ?_⟩
  unfold queryModuleUsageRecords
  rw [List.forall₂_map_right_iff, List.forall₂_same]
  intro r _
  exact ⟨rfl, std.perm _ _, std.sorted (fun r : BundleActiveFormRecord => r.count) _⟩

end ServiceState

end DeviceUsageStats
