import DeviceUsageStats.Lib.Unwinding
import DeviceUsageStats.Proofs.TopHours
import DeviceUsageStats.Spec.Service

/-! Who can reach what through the service. Of every call the core sees only what the caller may ask for, so
the service with the core is the service with a core that answers nothing else; a caller that may ask for
nothing neither changes anything nor learns anything. -/

namespace DeviceUsageStats

namespace Caller

def IsNative (caller : Caller) : Prop :=
  caller.hasPermission = true ∧
    (caller.tokenTypeFlag = .tokenNative ∨ caller.tokenTypeFlag = .tokenShell)

/-- A caller that may ask about every bundle: an application must be a system app. -/
def MayQuery (caller : Caller) : Prop :=
  if caller.tokenType = .tokenHap then caller.hasPermission = true ∧ caller.isSystemApp = true
  else caller.IsNative

/-- A system app that asks about its own bundle. -/
def Owns (caller : Caller) (bundleName : String) : Prop :=
  caller.isSystemApp = true ∧ caller.bundleName = bundleName

instance (caller : Caller) : Decidable caller.IsNative := inferInstanceAs (Decidable (_ ∧ _))

instance (caller : Caller) : Decidable caller.MayQuery := by
  unfold MayQuery
  infer_instance

instance (caller : Caller) (bundleName : String) : Decidable (caller.Owns bundleName) :=
  inferInstanceAs (Decidable (_ ∧ _))

/-- A caller that may ask for nothing: it is no system app, and neither native nor permitted to query. -/
def outsider (caller : Caller) : Bool := ¬ (caller.MayQuery ∨ caller.IsNative ∨ caller.isSystemApp = true)

end Caller

/-- The core as a caller may see it: a call that the caller may not ask for answers nothing and does
nothing. -/
def CoreCalls.limited {σ : Type} (core : CoreCalls σ) (caller : Caller) : CoreCalls σ where
  reportEvent event userId s :=
    if caller.IsNative ∧ caller.processName ∈ [BundleActiveService.permittedProcessNameFoundation,
        BundleActiveService.permittedProcessNameRss] then core.reportEvent event userId s
    else s
  isBundleIdle bundleName userId s :=
    if caller.Owns bundleName ∨ caller.MayQuery ∧ caller.bundleName ≠ bundleName then
      core.isBundleIdle bundleName userId s
    else (0, s)
  isBundleUsePeriod bundleName userId s :=
    if caller.IsNative then core.isBundleUsePeriod bundleName userId s else (false, s)
  queryBundleStatsInfos userId intervalType beginTime endTime bundleName s :=
    if caller.MayQuery ∨ caller.hasPermission = true ∧ bundleName ≠ "" ∧ caller.Owns bundleName then
      core.queryBundleStatsInfos userId intervalType beginTime endTime bundleName s
    else ((0, []), s)
  queryBundleEvents userId beginTime endTime bundleName s :=
    if caller.MayQuery ∨ bundleName ≠ "" ∧ caller.Owns bundleName then
      core.queryBundleEvents userId beginTime endTime bundleName s
    else ((0, []), s)
  queryHighFrequencyPeriodBundle userId s :=
    if caller.MayQuery then core.queryHighFrequencyPeriodBundle userId s else ((0, []), s)
  setAppGroup bundleName newGroup userId isFlush s :=
    if caller.MayQuery ∧ caller.bundleName ≠ bundleName then
      core.setAppGroup bundleName newGroup userId isFlush s
    else (0, s)
  queryAppGroup bundleName userId s :=
    if caller.MayQuery ∨ caller.Owns bundleName then core.queryAppGroup bundleName userId s
    else ((0, 0), s)
  registerAppGroupCallBack tokenId observer s :=
    if caller.MayQuery ∧ caller.tokenId = tokenId then
      core.registerAppGroupCallBack tokenId observer s
    else (0, s)
  unRegisterAppGroupCallBack tokenId s :=
    if caller.MayQuery ∧ caller.tokenId = tokenId then core.unRegisterAppGroupCallBack tokenId s
    else (0, s)
  queryModuleUsageRecords maxNum userId s :=
    if caller.MayQuery then core.queryModuleUsageRecords maxNum userId s else ((0, []), s)
  queryDeviceEventStats beginTime endTime userId s :=
    if caller.MayQuery then core.queryDeviceEventStats beginTime endTime userId s else ((0, []), s)
  queryNotificationEventStats beginTime endTime userId s :=
    if caller.MayQuery then core.queryNotificationEventStats beginTime endTime userId s
    else ((0, []), s)

namespace BundleActiveService

variable {σ : Type} {core core' : CoreCalls σ} {caller : Caller} {s : σ} {std : StdSort}

/-! ### The checks -/

theorem checkBundleIsSystemAppAndHasPermission_ok :
    checkBundleIsSystemAppAndHasPermission caller = errOk ↔
      caller.hasPermission = true ∧ caller.isSystemApp = true := by
  unfold checkBundleIsSystemAppAndHasPermission
  cases caller.isSystemApp <;> cases caller.hasPermission <;> simp [errOk, errNotSystemApp,
    errPermissionDenied]

theorem checkNativePermission_ok : checkNativePermission caller = errOk ↔ caller.IsNative := by
  unfold checkNativePermission Caller.IsNative
  cases caller.hasPermission <;> cases caller.tokenTypeFlag <;> simp [errOk, errPermissionDenied]

theorem checkSystemAppOrNativePermission_ok :
    checkSystemAppOrNativePermission caller = errOk ↔ caller.MayQuery := by
  unfold checkSystemAppOrNativePermission Caller.MayQuery
  split_ifs
  · exact checkBundleIsSystemAppAndHasPermission_ok
  · exact checkNativePermission_ok

theorem forUser_congr {userId : ℤ} {failed : ℤ → ServiceReply} {call call' : ℤ → ServiceReply × σ}
    (h : ∀ user, call user = call' user) :
    forUser caller s userId failed call = forUser caller s userId failed call' := by
  rw [funext h]

theorem permitted_congr {denied : ℤ → ServiceReply} {call call' : ServiceReply × σ}
    (h : caller.MayQuery → call = call') :
    permitted caller s denied call = permitted caller s denied call' := by
  unfold permitted
  split_ifs with hcheck
  · exact h (checkSystemAppOrNativePermission_ok.1 hcheck)
  · rfl

/-! ### What the core is asked -/

/-- The core is asked nothing that the caller may not ask for. -/
theorem handle_limited (core : CoreCalls σ) (std : StdSort) (caller : Caller) (s : σ)
    (request : ServiceRequest) :
    handle (core.limited caller) std caller s request = handle core std caller s request := by
  cases request with
  | reportEvent event userId bootTimeMs =>
    simp only [handle, reportEvent, CoreCalls.limited, ne_eq, checkNativePermission_ok]
    refine if_ctx_congr Iff.rfl (fun _ => rfl) fun hnative => ?_
    refine if_ctx_congr Iff.rfl (fun _ => rfl) fun hprocess => ?_
    have hname : caller.processName ∈
        [permittedProcessNameFoundation, permittedProcessNameRss] := by
      simp only [List.mem_cons, List.not_mem_nil, or_false]
      tauto
    rw [if_pos ⟨not_not.1 hnative, hname⟩]
  | isBundleIdle bundleName userId =>
    simp only [handle, isBundleIdle]
    refine forUser_congr fun user => if_ctx_congr Iff.rfl (fun hown => ?_) fun hown => ?_
    · refine if_ctx_congr Iff.rfl (fun _ => rfl) fun happ => ?_
      have howns : caller.Owns bundleName := ⟨by simpa using happ, hown⟩
      simp [CoreCalls.limited, howns]
    · refine permitted_congr fun hquery => ?_
      simp [CoreCalls.limited, hquery, hown]
  | isBundleUsePeriod bundleName userId =>
    simp only [handle, isBundleUsePeriod, ne_eq, checkNativePermission_ok]
    refine if_ctx_congr Iff.rfl (fun _ => rfl) fun hnative => forUser_congr fun user => ?_
    simp [CoreCalls.limited, not_not.1 hnative]
  | queryBundleStatsInfoByInterval appIndexOf intervalType beginTime endTime userId =>
    simp only [handle, queryBundleStatsInfoByInterval]
    refine forUser_congr fun user => permitted_congr fun hquery => ?_
    simp [CoreCalls.limited, hquery]
  | queryBundleEvents beginTime endTime userId maxNum =>
    simp only [handle, queryBundleEvents]
    refine if_congr Iff.rfl rfl (forUser_congr fun user => permitted_congr fun hquery => ?_)
    simp [CoreCalls.limited, hquery]
  | queryHighFrequencyPeriodBundle userId =>
    simp only [handle, queryHighFrequencyPeriodBundle]
    refine forUser_congr fun user => permitted_congr fun hquery => ?_
    simp [CoreCalls.limited, hquery]
  | queryBundleTodayLatestUsedTime bundleName userId startTime currentSystemTime =>
    simp only [handle, queryBundleTodayLatestUsedTime]
    refine forUser_congr fun user => permitted_congr fun hquery => ?_
    simp [CoreCalls.limited, hquery]
  | setAppGroup bundleName newGroup userId =>
    simp only [handle, setAppGroup]
    refine forUser_congr fun user => if_ctx_congr Iff.rfl (fun _ => rfl) fun hown => ?_
    refine permitted_congr fun hquery => ?_
    simp [CoreCalls.limited, hquery, hown]
  | queryBundleStatsInfos intervalType beginTime endTime =>
    simp only [handle, queryBundleStatsInfos]
    refine forUser_congr fun user => if_ctx_congr Iff.rfl (fun hown => ?_) fun _ => rfl
    obtain ⟨hname, hcheck⟩ := hown
    obtain ⟨hpermission, happ⟩ := checkBundleIsSystemAppAndHasPermission_ok.1 hcheck
    simp [CoreCalls.limited, hpermission, Caller.Owns, happ, hname]
  | queryHighFrequencyUsageBundleInfos userId maxNum queryDayRange currentSystemTime =>
    simp only [handle, queryHighFrequencyUsageBundleInfos]
    refine if_congr Iff.rfl rfl (permitted_congr fun hquery => ?_)
    simp [CoreCalls.limited, hquery]
  | queryCurrentBundleEvents beginTime endTime maxNum =>
    simp only [handle, queryCurrentBundleEvents]
    refine if_congr Iff.rfl rfl (forUser_congr fun user => ?_)
    refine if_ctx_congr Iff.rfl (fun _ => rfl) fun hname => ?_
    refine if_ctx_congr Iff.rfl (fun _ => rfl) fun happ => ?_
    have howns : caller.Owns caller.bundleName := ⟨by simpa using happ, rfl⟩
    simp [CoreCalls.limited, howns, hname]
  | queryAppGroup bundleName userId =>
    simp only [handle, queryAppGroup]
    refine forUser_congr fun user => if_congr Iff.rfl ?_ (permitted_congr fun hquery => ?_)
    · refine if_ctx_congr Iff.rfl (fun _ => rfl) fun happ => ?_
      have howns : caller.Owns caller.bundleName := ⟨by simpa using happ, rfl⟩
      simp [CoreCalls.limited, howns]
    · simp [CoreCalls.limited, hquery]
  | registerAppGroupCallBack observer =>
    simp only [handle, registerAppGroupCallBack]
    refine permitted_congr fun hquery => ?_
    simp [CoreCalls.limited, hquery]
  | unRegisterAppGroupCallBack =>
    simp only [handle, unRegisterAppGroupCallBack]
    refine permitted_congr fun hquery => ?_
    simp [CoreCalls.limited, hquery]
  | queryModuleUsageRecords maxNum userId =>
    simp only [handle, queryModuleUsageRecords]
    refine if_congr Iff.rfl rfl (forUser_congr fun user => permitted_congr fun hquery => ?_)
    simp [CoreCalls.limited, hquery]
  | queryDeviceEventStats beginTime endTime userId =>
    simp only [handle, queryDeviceEventStats]
    refine forUser_congr fun user => permitted_congr fun hquery => ?_
    simp [CoreCalls.limited, hquery]
  | queryNotificationEventStats beginTime endTime userId =>
    simp only [handle, queryNotificationEventStats]
    refine forUser_congr fun user => permitted_congr fun hquery => ?_
    simp [CoreCalls.limited, hquery]

/-! ### Callers that may ask for nothing -/

def silent : CoreCalls σ where
  reportEvent _ _ s := s
  isBundleIdle _ _ s := (0, s)
  isBundleUsePeriod _ _ s := (false, s)
  queryBundleStatsInfos _ _ _ _ _ s := ((0, []), s)
  queryBundleEvents _ _ _ _ s := ((0, []), s)
  queryHighFrequencyPeriodBundle _ s := ((0, []), s)
  setAppGroup _ _ _ _ s := (0, s)
  queryAppGroup _ _ s := ((0, 0), s)
  registerAppGroupCallBack _ _ s := (0, s)
  unRegisterAppGroupCallBack _ s := (0, s)
  queryModuleUsageRecords _ _ s := ((0, []), s)
  queryDeviceEventStats _ _ _ s := ((0, []), s)
  queryNotificationEventStats _ _ _ s := ((0, []), s)

theorem handle_silent {τ : Type} (std : StdSort) (caller : Caller) (request : ServiceRequest) (s : σ)
    (t : τ) : (handle silent std caller s request).2 = s ∧
      (handle silent std caller s request).1 = (handle silent std caller t request).1 := by
  cases request
  all_goals
    simp only [handle, reportEvent, isBundleIdle, isBundleUsePeriod, queryBundleStatsInfoByInterval,
      queryBundleEvents, queryHighFrequencyPeriodBundle, queryBundleTodayLatestUsedTime, setAppGroup,
      queryBundleStatsInfos, queryHighFrequencyUsageBundleInfos, queryCurrentBundleEvents,
      queryAppGroup, registerAppGroupCallBack, unRegisterAppGroupCallBack, queryModuleUsageRecords,
      queryDeviceEventStats, queryNotificationEventStats, forUser, permitted, silent,
      mergePackageStats]
    split_ifs <;> exact ⟨rfl, rfl⟩

/-- Every request of an outsider is answered as over a core that is silent. -/
theorem handle_outsider (houtsider : caller.outsider = true) (request : ServiceRequest) :
    handle core std caller s request = handle silent std caller s request := by
  obtain ⟨hmayQuery, hisNative, happ⟩ :
      ¬ caller.MayQuery ∧ ¬ caller.IsNative ∧ caller.isSystemApp = false := by
    simpa [Caller.outsider] using houtsider
  have hsystem : checkBundleIsSystemAppAndHasPermission caller ≠ errOk := by
    simp [checkBundleIsSystemAppAndHasPermission_ok, happ]
  have hnative : checkNativePermission caller ≠ errOk := by
    rwa [Ne, checkNativePermission_ok]
  have hquery : checkSystemAppOrNativePermission caller ≠ errOk := by
    rwa [Ne, checkSystemAppOrNativePermission_ok]
  cases request
  all_goals
    simp only [handle, reportEvent, isBundleIdle, isBundleUsePeriod, queryBundleStatsInfoByInterval,
      queryBundleEvents, queryHighFrequencyPeriodBundle, queryBundleTodayLatestUsedTime, setAppGroup,
      queryBundleStatsInfos, queryHighFrequencyUsageBundleInfos, queryCurrentBundleEvents,
      queryAppGroup, registerAppGroupCallBack, unRegisterAppGroupCallBack, queryModuleUsageRecords,
      queryDeviceEventStats, queryNotificationEventStats, permitted, hsystem, hnative, hquery, happ,
      if_true, if_false, ne_eq, not_false_eq_true, and_false]

def step (core : CoreCalls σ) (std : StdSort) (seen : σ × List ServiceReply)
    (call : Caller × ServiceRequest) : σ × List ServiceReply :=
  ((handle core std call.1 seen.1 call.2).2,
    if call.1.outsider then seen.2 else seen.2 ++ [(handle core std call.1 seen.1 call.2).1])

/-- The calls of outsiders change neither the core nor what others are told, wherever they stand among the
other calls, and what an outsider is told is the same whatever the core and its state. -/
theorem outsiders_isolated (core : CoreCalls σ) (std : StdSort) :
    Unwinding.NonInterfering (fun _ => True) (step core std) (·.1.outsider) id ∧
      ∀ caller : Caller, caller.outsider = true → ∀ request (τ : Type) (other : CoreCalls τ) s t,
        (handle core std caller s request).1 = (handle other std caller t request).1 := by
  constructor
  · have hunwinds : Unwinding.Unwinds (step core std) (fun call => call.1.outsider) Eq := by
      refine ⟨?_, ?_⟩
      · rintro s t call rfl
        rfl
      · rintro ⟨s, replies⟩ t ⟨caller, request⟩ houtsider rfl
        simp only [step, handle_outsider houtsider, (handle_silent std caller request s s).1,
          houtsider, if_true]
    exact hunwinds.nonInterfering (fun _ _ => rfl) fun _ _ h => h
  · intro caller houtsider request τ other s t
    rw [handle_outsider (s := s) houtsider, handle_outsider (s := t) houtsider]
    exact (handle_silent std caller request s t).2

/-- An application with the permission that is no system app, and a core that counts the settings. -/
def plainApp : Caller where
  tokenId := 3
  tokenType := .tokenHap
  tokenTypeFlag := .tokenHap
  hasPermission := true
  isSystemApp := false
  processName := ""
  bundleName := "com.example.mail"
  getUserIdRet := 0
  userId := 100

def countingCore : CoreCalls ℕ := { silent with setAppGroup := fun _ _ _ _ s => (0, s + 1) }

theorem outsiders_isolated_plainApp :
    Unwinding.NonInterfering (fun _ => True) (step countingCore stableSort) (·.1.outsider) id ∧
      (handle countingCore stableSort plainApp 0 (.setAppGroup "com.example.maps" 10 100)).1 =
        (handle silent stableSort plainApp () (.setAppGroup "com.example.maps" 10 100)).1 :=
  ⟨(outsiders_isolated countingCore stableSort).1,
    (outsiders_isolated countingCore stableSort).2 plainApp (by decide) _ _ silent 0 ()⟩

end BundleActiveService

end DeviceUsageStats
