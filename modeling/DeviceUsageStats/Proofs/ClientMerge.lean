import DeviceUsageStats.Proofs.MergeStats
import DeviceUsageStats.Spec.ClientMerge

/-! The merging of the client. The entries of an app in the map are a fold over its entries in the list; by
reference the fold merges them all, by copy it keeps the first. -/

namespace DeviceUsageStats

def BundleActivePackageStats.app (s : BundleActivePackageStats) : String × ℤ := (s.bundleName, s.appIndex)

def AppStatsMap.entriesOf (m : AppStatsMap) (app : String × ℤ) : List BundleActivePackageStats :=
  ((m[app.1]?).getD []).filter (·.appIndex = app.2)

def mergeAppInto (v : LoopVariable) (merged : Option BundleActivePackageStats)
    (packageStat : BundleActivePackageStats) : Option BundleActivePackageStats :=
  some ((merged.map fun left => v.leaves left (mergeClientStats left packageStat)).getD packageStat)

theorem appIndex_leaves (v : LoopVariable) (left right : BundleActivePackageStats) :
    (v.leaves left (mergeClientStats left right)).appIndex = left.appIndex := by
  cases v with
  | copy => rfl
  | reference => exact ((SameOtherFields.refl left).merge right).appIndex

def mergeEntries (v : LoopVariable) (entries : List BundleActivePackageStats)
    (a : BundleActivePackageStats) : List BundleActivePackageStats :=
  let changed := entries.map fun e =>
    if e.appIndex = a.appIndex then v.leaves e (mergeClientStats e a) else e
  if entries.any fun e => e.appIndex = a.appIndex then changed else changed ++ [a]

theorem mergeAppStat_eq (v : LoopVariable) (m : AppStatsMap) (a : BundleActivePackageStats) :
    mergeAppStat v m a = m.insert a.bundleName (mergeEntries v ((m[a.bundleName]?).getD []) a) := by
  unfold mergeAppStat
  cases m[a.bundleName]? with
  | none => rfl
  | some entries => rfl

theorem filter_mergeEntries (v : LoopVariable) (entries : List BundleActivePackageStats)
    (a : BundleActivePackageStats) (i : ℤ) {merged : Option BundleActivePackageStats}
    (h : entries.filter (·.appIndex = i) = merged.toList) :
    (mergeEntries v entries a).filter (·.appIndex = i) =
      (if a.appIndex = i then mergeAppInto v merged a else merged).toList := by
  have hindex : ∀ e : BundleActivePackageStats,
      (if e.appIndex = a.appIndex then v.leaves e (mergeClientStats e a) else e).appIndex = e.appIndex :=
    fun e => by
      split_ifs
      · exact appIndex_leaves v e a
      · rfl
  have hchanged : (entries.map fun e =>
        if e.appIndex = a.appIndex then v.leaves e (mergeClientStats e a) else e).filter
          (·.appIndex = i) =
      merged.toList.map fun e =>
        if e.appIndex = a.appIndex then v.leaves e (mergeClientStats e a) else e := by
    rw [List.filter_map, ← h]
    congr 1
    refine List.filter_congr fun e _ => ?_
    rw [Function.comp_apply, hindex]
  have hmem : ∀ e ∈ merged.toList, e.appIndex = i := fun e he => by
    rw [← h] at he
    exact of_decide_eq_true (List.mem_filter.1 he).2
  unfold mergeEntries
  simp only
  by_cases hi : a.appIndex = i
  · rw [if_pos hi]
    cases merged with
    | none =>
      have hany : entries.any (fun e => e.appIndex = a.appIndex) = false := by
        rw [hi, List.any_eq_false]
        exact List.filter_eq_nil_iff.1 h
      rw [hany, if_neg Bool.false_ne_true, List.filter_append, hchanged,
        List.filter_cons_of_pos (by simpa using hi)]
      rfl
    | some e =>
      have he : e ∈ entries.filter (·.appIndex = i) := by rw [h]; exact List.mem_singleton_self e
      have hany : entries.any (fun e => e.appIndex = a.appIndex) = true := by
        rw [hi]
        exact List.any_eq_true.2 ⟨e, List.mem_filter.1 he⟩
      have heq : e.appIndex = a.appIndex := (hmem e (List.mem_singleton_self e)).trans hi.symm
      rw [hany, if_pos rfl, hchanged, Option.toList_some, List.map_singleton, if_pos heq]
      rfl
  · have hsame : ∀ e ∈ merged.toList,
        (if e.appIndex = a.appIndex then v.leaves e (mergeClientStats e a) else e) = e := fun e he =>
      if_neg fun heq => hi (heq.symm.trans (hmem e he))
    rw [List.map_congr_left hsame, List.map_id'] at hchanged
    rw [if_neg hi]
    split_ifs
    · exact hchanged
    · rw [List.filter_append, hchanged, List.filter_cons_of_neg (by simpa using hi)]
      exact List.append_nil _

theorem entriesOf_mergeAppStat (v : LoopVariable) (m : AppStatsMap) (a : BundleActivePackageStats)
    (app : String × ℤ) {merged : Option BundleActivePackageStats}
    (h : m.entriesOf app = merged.toList) :
    (mergeAppStat v m a).entriesOf app =
      (if a.app = app then mergeAppInto v merged a else merged).toList := by
  obtain ⟨n, i⟩ := app
  rw [mergeAppStat_eq, AppStatsMap.entriesOf, Std.TreeMap.getElem?_insert]
  by_cases hn : a.bundleName = n
  · subst hn
    rw [if_pos (by simp), Option.getD_some, filter_mergeEntries v _ a i h]
    congr 1
    refine if_congr ?_ rfl rfl
    simp [BundleActivePackageStats.app]
  · have hne : a.app ≠ (n, i) := fun heq => hn (congrArg Prod.fst heq)
    rw [if_neg (by simpa using hn), if_neg hne]
    exact h

theorem entriesOf_foldl (v : LoopVariable) (packageStats : List BundleActivePackageStats)
    (app : String × ℤ) :
    (packageStats.foldl (mergeAppStat v) ({} : AppStatsMap)).entriesOf app =
      ((packageStats.filter (·.app = app)).foldl (mergeAppInto v) none).toList := by
  induction packageStats using List.reverseRecOn with
  | nil => rfl
  | append_singleton packageStats a ih =>
    rw [List.foldl_append, List.foldl_cons, List.foldl_nil, entriesOf_mergeAppStat v _ a app ih,
      List.filter_append, List.foldl_append]
    by_cases happ : a.app = app
    · rw [if_pos happ, List.filter_cons_of_pos (by simpa using happ)]
      rfl
    · rw [if_neg happ, List.filter_cons_of_neg (by simpa using happ)]
      rfl

theorem foldl_mergeAppInto_copy (own : List BundleActivePackageStats) :
    own.foldl (mergeAppInto .copy) none = own.head? := by
  induction own using List.reverseRecOn with
  | nil => rfl
  | append_singleton own a ih =>
    rw [List.foldl_append, ih, List.foldl_cons, List.foldl_nil]
    cases own <;> rfl

/-! ### One entry for each app -/

def appStats (packageStats : List BundleActivePackageStats) (app : String × ℤ) :
    List BundleActivePackageStats :=
  packageStats.filter (·.app = app)

/-- The map has one entry for each app that is asked for and has statistics, merged from all of them, and
nothing else. -/
structure MergedByApp (asked : String × ℤ → Prop) (packageStats : List BundleActivePackageStats)
    (m : AppStatsMap) : Prop where
  names : ∀ (n : String), ∀ r ∈ (m[n]?).getD [], r.bundleName = n
  merged : ∀ app, asked app → appStats packageStats app ≠ [] →
    ∃ r, m.entriesOf app = [r] ∧ MergedFrom (appStats packageStats app) r
  others : ∀ app, (asked app → appStats packageStats app = []) → m.entriesOf app = []

structure AddsNothing (first : BundleActivePackageStats) (rest : List BundleActivePackageStats) :
    Prop where
  totalInFrontTime : (rest.map (·.totalInFrontTime)).sum = 0
  totalContiniousTaskUsedTime : (rest.map (·.totalContiniousTaskUsedTime)).sum = 0
  startCount : (rest.map (·.startCount)).sum = 0
  bundleStartedCount : (rest.map (·.bundleStartedCount)).sum = 0
  lastTimeUsed : ∀ r ∈ rest, r.lastTimeUsed ≤ first.lastTimeUsed
  lastContiniousTaskUsed : ∀ r ∈ rest, r.lastContiniousTaskUsed ≤ first.lastContiniousTaskUsed

def FirstSuffices (own : List BundleActivePackageStats) : Prop :=
  ∀ first ∈ own.head?, AddsNothing first own.tail

theorem eq_sum_cons_iff {t : ℤ} {times : List ℤ} : t = (t :: times).sum ↔ times.sum = 0 := by
  rw [List.sum_cons, left_eq_add]

theorem isLast_cons_iff {α : Type*} {f : α → ℤ} {first : α} {rest : List α} :
    IsLast ((first :: rest).map f) (f first) ↔ ∀ r ∈ rest, f r ≤ f first := by
  simp [IsLast]

theorem mergedFrom_first_iff {first : BundleActivePackageStats} {rest : List BundleActivePackageStats} :
    MergedFrom (first :: rest) first ↔ AddsNothing first rest := by
  refine ⟨fun h => ⟨?_, ?_, ?_, ?_, ?_, ?_⟩, fun h => ⟨?_, ?_, ?_, ?_, ?_, ?_⟩⟩
  · exact eq_sum_cons_iff.1 h.totalInFrontTime
  · exact eq_sum_cons_iff.1 h.totalContiniousTaskUsedTime
  · exact eq_sum_cons_iff.1 h.startCount
  · exact eq_sum_cons_iff.1 h.bundleStartedCount
  · exact isLast_cons_iff.1 h.lastTimeUsed
  · exact isLast_cons_iff.1 h.lastContiniousTaskUsed
  · exact eq_sum_cons_iff.2 h.totalInFrontTime
  · exact eq_sum_cons_iff.2 h.totalContiniousTaskUsedTime
  · exact eq_sum_cons_iff.2 h.startCount
  · exact eq_sum_cons_iff.2 h.bundleStartedCount
  · exact isLast_cons_iff.2 h.lastTimeUsed
  · exact isLast_cons_iff.2 h.lastContiniousTaskUsed

theorem names_of_entriesOf {m : AppStatsMap} (h : ∀ app, ∀ r ∈ m.entriesOf app, r.app = app)
    (n : String) : ∀ r ∈ (m[n]?).getD [], r.bundleName = n := fun r hr => by
  have hmem : r ∈ m.entriesOf (n, r.appIndex) := List.mem_filter.2 ⟨hr, by simp⟩
  exact congrArg Prod.fst (h _ r hmem)

theorem app_of_mem_appStats {packageStats : List BundleActivePackageStats} {app : String × ℤ}
    {r : BundleActivePackageStats} (h : r ∈ appStats packageStats app) : r.app = app :=
  of_decide_eq_true (List.mem_filter.1 h).2

/-- A map with the first statistic of each app that is there: it is right where the first suffices and no app
is there that is not asked for. -/
theorem mergedByApp_iff_of_first (asked there : String × ℤ → Prop)
    {packageStats : List BundleActivePackageStats} {m : AppStatsMap}
    (hthere : ∀ app, there app → m.entriesOf app = (appStats packageStats app).head?.toList)
    (hnot : ∀ app, ¬ there app → m.entriesOf app = []) (hasked : ∀ app, asked app → there app) :
    MergedByApp asked packageStats m ↔
      (∀ app, asked app → FirstSuffices (appStats packageStats app)) ∧
        ∀ app, appStats packageStats app ≠ [] → there app → asked app := by
  refine ⟨fun h => ⟨fun app happ first hfirst => ?_, fun app hne happ => ?_⟩,
    fun h => ⟨?_, fun app happ hne => ?_, fun app hempty => ?_⟩⟩
  · have hentries := hthere app (hasked app happ)
    cases hown : appStats packageStats app with
    | nil =>
      rw [hown] at hfirst
      cases hfirst
    | cons s rest =>
      obtain ⟨r, hr, hmerged⟩ := h.merged app happ (by simp [hown])
      rw [hown] at hfirst hentries hmerged
      obtain rfl : s = first := Option.some.inj hfirst
      obtain rfl : s = r := List.singleton_inj.1 (hentries.symm.trans hr)
      exact mergedFrom_first_iff.1 hmerged
  · by_contra hask
    have hnone := h.others app fun hask' => absurd hask' hask
    rw [hthere app happ] at hnone
    cases hown : appStats packageStats app with
    | nil => exact hne hown
    | cons s rest =>
      rw [hown] at hnone
      cases hnone
  · refine names_of_entriesOf fun app r hr => ?_
    by_cases happ : there app
    · rw [hthere app happ, Option.mem_toList] at hr
      exact app_of_mem_appStats (List.mem_of_head? hr)
    · rw [hnot app happ] at hr
      cases hr
  · cases hown : appStats packageStats app with
    | nil => exact absurd hown hne
    | cons s rest =>
      have hsuffices := h.1 app happ
      rw [hown] at hsuffices
      refine ⟨s, ?_, mergedFrom_first_iff.2 (hsuffices s rfl)⟩
      rw [hthere app (hasked app happ), hown]
      rfl
  · by_cases happ : there app
    · have hown : appStats packageStats app = [] := by
        by_contra hne
        exact hne (hempty (h.2 app hne happ))
      rw [hthere app happ, hown]
      rfl
    · exact hnot app happ

/-- By reference the loop merges all statistics of each app. -/
theorem mergeAppStatsInfos_mergedByApp (packageStats : List BundleActivePackageStats) :
    MergedByApp (fun _ => True) packageStats
      (BundleStateIDLCommon.mergeAppStatsInfos packageStats {}) := by
  have hentries : ∀ app, AppStatsMap.entriesOf
      (BundleStateIDLCommon.mergeAppStatsInfos packageStats {}) app =
        ((appStats packageStats app).foldl mergeInto none).toList := fun app =>
    entriesOf_foldl .reference packageStats app
  have hmerged : ∀ app, appStats packageStats app ≠ [] → ∃ r : BundleActivePackageStats, r.app = app ∧
      (appStats packageStats app).foldl mergeInto none = some r ∧
        MergedFrom (appStats packageStats app) r := fun app hne => by
    obtain ⟨s, rest, hown⟩ := List.exists_cons_of_ne_nil hne
    have happ : ∀ r ∈ s :: rest, r.app = app := fun r hr => by
      rw [← hown] at hr
      exact app_of_mem_appStats hr
    have hs := happ s (List.mem_cons_self ..)
    obtain ⟨r, hr, hmerged, hother⟩ := foldl_mergeInto s rest fun r hr =>
      congrArg Prod.fst ((happ r (List.mem_cons_of_mem _ hr)).trans hs.symm)
    have hname : r.bundleName = s.bundleName := congrArg Prod.fst hother.identity
    rw [hown, ← hs]
    exact ⟨r, Prod.ext hname hother.appIndex, hr, hmerged⟩
  refine ⟨?_, fun app _ hne => ?_, fun app hempty => ?_⟩
  · refine names_of_entriesOf fun app r hr => ?_
    rw [hentries, Option.mem_toList] at hr
    by_cases hne : appStats packageStats app = []
    · rw [hne] at hr
      cases hr
    · obtain ⟨r', happ, hr', -⟩ := hmerged app hne
      obtain rfl : r' = r := Option.some.inj (hr'.symm.trans hr)
      exact happ
  · obtain ⟨r, -, hr, hfrom⟩ := hmerged app hne
    exact ⟨r, by rw [hentries, hr]; rfl, hfrom⟩
  · rw [hentries, hempty trivial]
    rfl

namespace BundleStateCommon

/-! ### The queries -/

/-- No statistics make no map, where the loop would make an empty one. -/
theorem getD_queryAppStatsInfos (client : StatsQuery) (beginTime endTime : ℤ) :
    ((queryAppStatsInfos client beginTime endTime).1).getD {} =
      (client (appStatsInterval beginTime endTime).toInt beginTime endTime).1.foldl
        (mergeAppStat .copy) {} := by
  unfold queryAppStatsInfos
  obtain ⟨packageStats, errCode⟩ :=
    client (appStatsInterval beginTime endTime).toInt beginTime endTime
  cases packageStats with
  | nil => rfl
  | cons s rest => rfl

theorem getD_queryLastUseTime (client : StatsQuery) (queryInfos : Std.TreeMap String (List ℤ)) :
    ((queryLastUseTime client queryInfos).1).getD {} =
      (tempPackageStats queryInfos (client YEAR_TYPE 0 MAX_TIME).1).foldl (mergeAppStat .copy) {} := by
  unfold queryLastUseTime
  obtain ⟨packageStats, errCode⟩ := client YEAR_TYPE 0 MAX_TIME
  cases packageStats with
  | nil =>
    have hempty : tempPackageStats queryInfos [] = [] := List.flatMap_eq_nil_iff.2 fun _ _ => rfl
    simp only [hempty]
    rfl
  | cons s rest => rfl

def Requested (queryInfos : Std.TreeMap String (List ℤ)) (app : String × ℤ) : Prop :=
  app.2 ∈ (queryInfos[app.1]?).getD []

def TextRequested (queryInfos : Std.TreeMap String (List ℤ)) (app : String × ℤ) : Prop :=
  ∃ other, Requested queryInfos other ∧ queryInfoText other.1 other.2 = queryInfoText app.1 app.2

theorem mem_tempQueryInfos {queryInfos : Std.TreeMap String (List ℤ)} {app : String × ℤ} :
    queryInfoText app.1 app.2 ∈ tempQueryInfos queryInfos ↔ TextRequested queryInfos app := by
  unfold tempQueryInfos
  rw [List.mem_flatMap]
  refine ⟨?_, ?_⟩
  · rintro ⟨⟨n, indices⟩, hmem, htext⟩
    obtain ⟨i, hi, htext⟩ := List.mem_map.1 htext
    refine ⟨(n, i), ?_, htext⟩
    rw [Requested, Std.TreeMap.mem_toList_iff_getElem?_eq_some.1 hmem]
    exact hi
  · rintro ⟨⟨n, i⟩, hrequested, htext⟩
    unfold Requested at hrequested
    simp only at hrequested
    cases hn : queryInfos[n]? with
    | none =>
      rw [hn] at hrequested
      cases hrequested
    | some indices =>
      rw [hn] at hrequested
      exact ⟨(n, indices), Std.TreeMap.mem_toList_iff_getElem?_eq_some.2 hn,
        List.mem_map.2 ⟨i, hrequested, htext⟩⟩

/-- The statistics of an app that are picked: all of them, once for each text of the request that is its own. -/
theorem appStats_tempPackageStats (queryInfos : Std.TreeMap String (List ℤ))
    (packageStats : List BundleActivePackageStats) (app : String × ℤ) :
    appStats (tempPackageStats queryInfos packageStats) app =
      (tempQueryInfos queryInfos).flatMap fun tempQueryInfo =>
        if tempQueryInfo = queryInfoText app.1 app.2 then appStats packageStats app else [] := by
  unfold appStats tempPackageStats
  rw [List.filter_flatMap]
  congr 1
  funext tempQueryInfo
  rw [List.filter_filter]
  have hown : ∀ s : BundleActivePackageStats, s.app = app →
      queryInfoText s.bundleName s.appIndex = queryInfoText app.1 app.2 := fun s hs => by
    rw [← hs]
    rfl
  split_ifs with htext
  · refine List.filter_congr fun s _ => ?_
    rw [Bool.and_eq_left_iff_imp]
    exact fun hs => decide_eq_true (htext.trans (hown s (of_decide_eq_true hs)).symm)
  · refine List.filter_eq_nil_iff.2 fun s _ hs => ?_
    obtain ⟨happ, hs⟩ := Bool.and_eq_true_iff.1 hs
    exact htext ((of_decide_eq_true hs).trans (hown s (of_decide_eq_true happ)))

theorem head?_flatMap_of_mem {α β : Type*} [DecidableEq α] {l : List α} {a : α} (h : a ∈ l)
    (own : List β) : (l.flatMap fun x => if x = a then own else []).head? = own.head? := by
  induction l with
  | nil => cases h
  | cons x l ih =>
    rw [List.flatMap_cons, List.head?_append]
    split_ifs with hx
    · by_cases hl : a ∈ l
      · rw [ih hl, Option.or_self]
      · have hnil : (l.flatMap fun x => if x = a then own else []) = [] :=
          List.flatMap_eq_nil_iff.2 fun y hy => if_neg fun (heq : y = a) => hl (heq ▸ hy)
        rw [hnil, List.head?_nil, Option.or_none]
    · exact ih ((List.mem_cons.1 h).resolve_left (Ne.symm hx))

/-- What the queries answer of a list has one merged entry for each app iff the first statistics of each app
suffice and, of the last uses, no other app has the text of one of the request. -/
theorem mergedByApp_iff (client : StatsQuery) (beginTime endTime : ℤ)
    (queryInfos : Std.TreeMap String (List ℤ)) :
    (MergedByApp (fun _ => True)
        (client (appStatsInterval beginTime endTime).toInt beginTime endTime).1
        ((queryAppStatsInfos client beginTime endTime).1.getD {}) ↔
      ∀ app, FirstSuffices (appStats
        (client (appStatsInterval beginTime endTime).toInt beginTime endTime).1 app)) ∧
    (MergedByApp (Requested queryInfos) (client YEAR_TYPE 0 MAX_TIME).1
        ((queryLastUseTime client queryInfos).1.getD {}) ↔
      (∀ app, Requested queryInfos app →
        FirstSuffices (appStats (client YEAR_TYPE 0 MAX_TIME).1 app)) ∧
      ∀ app, appStats (client YEAR_TYPE 0 MAX_TIME).1 app ≠ [] → TextRequested queryInfos app →
        Requested queryInfos app) := by
  refine ⟨?_, ?_⟩
  · rw [getD_queryAppStatsInfos]
    refine (mergedByApp_iff_of_first _ (fun _ => True) (fun app _ => ?_)
      (fun _ hnot => absurd trivial hnot) fun _ => id).trans ?_
    · rw [entriesOf_foldl, foldl_mergeAppInto_copy]
      rfl
    · simp only [forall_const, implies_true, and_true]
  · rw [getD_queryLastUseTime]
    refine mergedByApp_iff_of_first _ (TextRequested queryInfos) (fun app happ => ?_)
      (fun app hnot => ?_) fun app happ => ⟨app, happ, rfl⟩
    · rw [entriesOf_foldl, foldl_mergeAppInto_copy]
      change (appStats (tempPackageStats _ _) app).head?.toList = _
      rw [appStats_tempPackageStats, head?_flatMap_of_mem (mem_tempQueryInfos.2 happ)]
    · have hnil : (tempQueryInfos queryInfos).flatMap (fun tempQueryInfo =>
          if tempQueryInfo = queryInfoText app.1 app.2 then
            appStats (client YEAR_TYPE 0 MAX_TIME).1 app else []) = [] :=
        List.flatMap_eq_nil_iff.2 fun text htext => if_neg fun heq => by
          rw [heq] at htext
          exact hnot (mem_tempQueryInfos.1 htext)
      rw [entriesOf_foldl, foldl_mergeAppInto_copy]
      change (appStats (tempPackageStats _ _) app).head?.toList = _
      rw [appStats_tempPackageStats, hnil]
      rfl

/-- The bundle manager knows neither uid of the bundle any more. -/
def uninstalledStats : List BundleActivePackageStats :=
  [{ bundleName := "com.example.mail", uid := 20010, appIndex := -1, totalInFrontTime := 5 },
    { bundleName := "com.example.mail", uid := 20020, appIndex := -1, totalInFrontTime := 7 }]

theorem not_mergedByApp_uninstalledStats :
    ¬ MergedByApp (fun _ => True) uninstalledStats
      ((queryAppStatsInfos (fun _ _ _ => (uninstalledStats, 0)) 1000 2000).1.getD {}) := by
  intro h
  obtain ⟨r, hr, hmerged⟩ := h.merged ("com.example.mail", -1) trivial (by decide +kernel)
  have hsum : r.totalInFrontTime = 12 := hmerged.totalInFrontTime.trans (by decide +kernel)
  have hfirst : (AppStatsMap.entriesOf ((queryAppStatsInfos (fun _ _ _ => (uninstalledStats, 0))
      1000 2000).1.getD {}) ("com.example.mail", -1)).map (·.totalInFrontTime) = [5] := by
    decide +kernel
  rw [hr, List.map_singleton, hsum] at hfirst
  cases hfirst

end BundleStateCommon

end DeviceUsageStats
