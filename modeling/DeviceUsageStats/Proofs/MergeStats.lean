import Mathlib
import DeviceUsageStats.Lib.Entries
import DeviceUsageStats.Lib.KeyedFold
import DeviceUsageStats.Spec.MergeStats

/-! The merging of package statistics. The entry of a usage key is the fold of `mergeSamePackageStats` over
the entries of the key, and a fold over entries of one name adds the totals and keeps the last stamps. -/

namespace DeviceUsageStats

def BundleActivePackageStats.identity (s : BundleActivePackageStats) : String × ℤ :=
  (s.bundleName, s.uid)

def BundleActivePackageStats.usageKey (s : BundleActivePackageStats) : String :=
  getBundleUsageKey s.bundleName s.uid

theorem BundleActivePackageStats.usageKey_eq {s s' : BundleActivePackageStats}
    (h : s.identity = s'.identity) : s.usageKey = s'.usageKey :=
  congrArg (fun p : String × ℤ => getBundleUsageKey p.1 p.2) h

def IsLast (times : List ℤ) (time : ℤ) : Prop := time ∈ times ∧ ∀ t ∈ times, t ≤ time

theorem IsLast.snoc {times : List ℤ} {time : ℤ} (h : IsLast times time) (t : ℤ) :
    IsLast (times ++ [t]) (max time t) := by
  refine ⟨?_, fun t' ht' => ?_⟩
  · rcases max_choice time t with heq | heq
    · rw [heq]; exact List.mem_append_left _ h.1
    · rw [heq]; simp
  · rcases List.mem_append.1 ht' with hmem | hmem
    · exact (h.2 t' hmem).trans (le_max_left _ _)
    · rw [List.mem_singleton.1 hmem]; exact le_max_right _ _

theorem IsLast.eq_of_perm {times times' : List ℤ} {time time' : ℤ} (h : IsLast times time)
    (h' : IsLast times' time') (hperm : times.Perm times') : time = time' :=
  le_antisymm (h'.2 _ (hperm.mem_iff.1 h.1)) (h.2 _ (hperm.mem_iff.2 h'.1))

/-- The totals and start counts are the sums over the entries, the last uses the latest of them. -/
structure MergedFrom (own : List BundleActivePackageStats) (r : BundleActivePackageStats) : Prop where
  totalInFrontTime : r.totalInFrontTime = (own.map (·.totalInFrontTime)).sum
  totalContiniousTaskUsedTime :
    r.totalContiniousTaskUsedTime = (own.map (·.totalContiniousTaskUsedTime)).sum
  startCount : r.startCount = (own.map (·.startCount)).sum
  bundleStartedCount : r.bundleStartedCount = (own.map (·.bundleStartedCount)).sum
  lastTimeUsed : IsLast (own.map (·.lastTimeUsed)) r.lastTimeUsed
  lastContiniousTaskUsed : IsLast (own.map (·.lastContiniousTaskUsed)) r.lastContiniousTaskUsed

def BundleActivePackageStats.mergedFields (s : BundleActivePackageStats) : List ℤ :=
  [s.totalInFrontTime, s.totalContiniousTaskUsedTime, s.startCount, s.bundleStartedCount,
    s.lastTimeUsed, s.lastContiniousTaskUsed]

theorem MergedFrom.single (s : BundleActivePackageStats) : MergedFrom [s] s :=
  ⟨by simp, by simp, by simp, by simp, by simp [IsLast], by simp [IsLast]⟩

theorem MergedFrom.snoc {own : List BundleActivePackageStats} {left : BundleActivePackageStats}
    (h : MergedFrom own left) {right : BundleActivePackageStats}
    (hname : left.bundleName = right.bundleName) :
    MergedFrom (own ++ [right]) (mergeSamePackageStats left right) := by
  have hmerge : ¬ left.bundleName ≠ right.bundleName := by simpa using hname
  unfold mergeSamePackageStats
  rw [if_neg hmerge]
  refine ⟨?_, ?_, ?_, ?_, ?_, ?_⟩
  · simp [h.totalInFrontTime]
  · simp [h.totalContiniousTaskUsedTime]
  · simp [h.startCount]
  · simp [h.bundleStartedCount]
  · rw [List.map_append]; exact h.lastTimeUsed.snoc _
  · rw [List.map_append]; exact h.lastContiniousTaskUsed.snoc _

theorem MergedFrom.mergedFields_eq {own own' : List BundleActivePackageStats}
    {r r' : BundleActivePackageStats} (h : MergedFrom own r) (h' : MergedFrom own' r')
    (hperm : own.Perm own') : r.mergedFields = r'.mergedFields := by
  unfold BundleActivePackageStats.mergedFields
  rw [h.totalInFrontTime, h'.totalInFrontTime, (hperm.map _).sum_eq,
    h.totalContiniousTaskUsedTime, h'.totalContiniousTaskUsedTime, (hperm.map _).sum_eq,
    h.startCount, h'.startCount, (hperm.map _).sum_eq, h.bundleStartedCount, h'.bundleStartedCount,
    (hperm.map _).sum_eq, h.lastTimeUsed.eq_of_perm h'.lastTimeUsed (hperm.map _),
    h.lastContiniousTaskUsed.eq_of_perm h'.lastContiniousTaskUsed (hperm.map _)]

/-! ### The fold of one key -/

/-- The entry apart from the fields that a merge combines. -/
structure SameOtherFields (s r : BundleActivePackageStats) : Prop where
  identity : r.identity = s.identity
  beginTimeStamp : r.beginTimeStamp = s.beginTimeStamp
  endTimeStamp : r.endTimeStamp = s.endTimeStamp
  userId : r.userId = s.userId
  appIndex : r.appIndex = s.appIndex
  abilities : r.abilities = s.abilities
  longTimeTasks : r.longTimeTasks = s.longTimeTasks

theorem SameOtherFields.refl (s : BundleActivePackageStats) : SameOtherFields s s :=
  ⟨rfl, rfl, rfl, rfl, rfl, rfl, rfl⟩

theorem SameOtherFields.merge {s left : BundleActivePackageStats} (h : SameOtherFields s left)
    (right : BundleActivePackageStats) : SameOtherFields s (mergeSamePackageStats left right) := by
  unfold mergeSamePackageStats
  split_ifs
  · exact h
  · exact ⟨h.identity, h.beginTimeStamp, h.endTimeStamp, h.userId, h.appIndex, h.abilities,
      h.longTimeTasks⟩

def mergeInto (merged : Option BundleActivePackageStats) (packageStat : BundleActivePackageStats) :
    Option BundleActivePackageStats :=
  some ((merged.map (mergeSamePackageStats · packageStat)).getD packageStat)

theorem mergePackageStat_eq (m : Std.TreeMap String BundleActivePackageStats)
    (a : BundleActivePackageStats) :
    mergePackageStat m a =
      m.insert a.usageKey (((m[a.usageKey]?).map (mergeSamePackageStats · a)).getD a) := by
  have hkey : a.bundleName ++ toString a.uid = a.usageKey := rfl
  simp only [mergePackageStat, hkey]
  cases m[a.usageKey]? with
  | none => rfl
  | some left => rfl

theorem stepAt_mergePackageStat :
    KeyedFold.StepAt BundleActivePackageStats.usageKey mergeInto mergePackageStat where
  own m a := by
    rw [mergePackageStat_eq, Std.TreeMap.getElem?_insert_self]
    rfl
  other m a k hk := by
    rw [mergePackageStat_eq, Std.TreeMap.getElem?_insert]
    simp [hk]

/-- Entries of one name merge into their first with the fields of them all combined. -/
theorem foldl_mergeInto (s : BundleActivePackageStats) (rest : List BundleActivePackageStats)
    (hname : ∀ r ∈ rest, r.bundleName = s.bundleName) :
    ∃ r, (s :: rest).foldl mergeInto none = some r ∧ MergedFrom (s :: rest) r ∧
      SameOtherFields s r := by
  induction rest using List.reverseRecOn with
  | nil => exact ⟨s, rfl, .single s, .refl s⟩
  | append_singleton rest right ih =>
    obtain ⟨r, hr, hmerged, hother⟩ := ih fun q hq => hname q (List.mem_append_left _ hq)
    have hright : r.bundleName = right.bundleName :=
      (congrArg Prod.fst hother.identity).trans (hname right (by simp)).symm
    refine ⟨mergeSamePackageStats r right, ?_, hmerged.snoc hright, hother.merge right⟩
    rw [← List.cons_append, List.foldl_append, hr]
    rfl

/-! ### The merged list -/

/-- Two bundles of the list never share a usage key. -/
def KeysTellApart (packageStats : List BundleActivePackageStats) : Prop :=
  ∀ s ∈ packageStats, ∀ s' ∈ packageStats, s.usageKey = s'.usageKey → s.identity = s'.identity

instance (packageStats : List BundleActivePackageStats) : Decidable (KeysTellApart packageStats) :=
  inferInstanceAs (Decidable (∀ s ∈ packageStats, ∀ s' ∈ packageStats,
    s.usageKey = s'.usageKey → s.identity = s'.identity))

theorem mergePackageStats_eq (packageStats : List BundleActivePackageStats) :
    mergePackageStats packageStats =
      (packageStats.foldl mergePackageStat {}).toList.map Prod.snd := by
  unfold mergePackageStats
  cases packageStats with
  | nil => rfl
  | cons s rest => rfl

theorem getElem?_merged (packageStats : List BundleActivePackageStats) (k : String) :
    (packageStats.foldl mergePackageStat {})[k]? =
      (packageStats.filter (·.usageKey = k)).foldl mergeInto none := by
  rw [stepAt_mergePackageStat.getElem?_foldl]
  simp

/-- The entries of the list that are about the bundle of one of them. -/
def ownStats (packageStats : List BundleActivePackageStats) (s : BundleActivePackageStats) :
    List BundleActivePackageStats :=
  packageStats.filter (·.identity = s.identity)

variable {packageStats : List BundleActivePackageStats}

theorem KeysTellApart.filter_usageKey (h : KeysTellApart packageStats) {s : BundleActivePackageStats}
    (hs : s ∈ packageStats) :
    packageStats.filter (·.usageKey = s.usageKey) = ownStats packageStats s := by
  refine List.filter_congr fun r hr => ?_
  exact decide_eq_decide.2 ⟨h r hr s hs, BundleActivePackageStats.usageKey_eq⟩

theorem KeysTellApart.getElem?_usageKey (h : KeysTellApart packageStats)
    {s : BundleActivePackageStats} (hs : s ∈ packageStats) :
    ∃ r, (packageStats.foldl mergePackageStat {})[s.usageKey]? = some r ∧
      r.identity = s.identity ∧ MergedFrom (ownStats packageStats s) r ∧
      ∃ first, (ownStats packageStats s).head? = some first ∧ SameOtherFields first r := by
  have hmem : s ∈ ownStats packageStats s := List.mem_filter.2 ⟨hs, by simp⟩
  rw [getElem?_merged, h.filter_usageKey hs]
  cases hown : ownStats packageStats s with
  | nil => rw [hown] at hmem; cases hmem
  | cons first rest =>
    have hid : ∀ q ∈ first :: rest, q.identity = s.identity := fun q hq => by
      rw [← hown] at hq
      exact of_decide_eq_true (List.mem_filter.1 hq).2
    have hfirst := hid first (List.mem_cons_self ..)
    obtain ⟨r, hr, hmerged, hother⟩ := foldl_mergeInto first rest fun q hq =>
      congrArg Prod.fst ((hid q (List.mem_cons_of_mem _ hq)).trans hfirst.symm)
    exact ⟨r, hr, hother.identity.trans hfirst, hmerged, first, rfl, hother⟩

theorem exists_of_getElem?_merged {k : String} {r : BundleActivePackageStats}
    (hr : (packageStats.foldl mergePackageStat {})[k]? = some r) :
    ∃ s ∈ packageStats, s.usageKey = k := by
  rw [getElem?_merged] at hr
  cases hown : packageStats.filter (·.usageKey = k) with
  | nil => simp [hown] at hr
  | cons s rest =>
    have hs : s ∈ packageStats.filter (·.usageKey = k) := by simp [hown]
    exact ⟨s, (List.mem_filter.1 hs).1, of_decide_eq_true (List.mem_filter.1 hs).2⟩

theorem mem_mergePackageStats {r : BundleActivePackageStats} :
    r ∈ mergePackageStats packageStats ↔
      ∃ k : String, (packageStats.foldl mergePackageStat {})[k]? = some r := by
  rw [mergePackageStats_eq, List.mem_map]
  refine ⟨?_, ?_⟩
  · rintro ⟨⟨k, r'⟩, hmem, rfl⟩
    exact ⟨k, Std.TreeMap.mem_toList_iff_getElem?_eq_some.1 hmem⟩
  · rintro ⟨k, hk⟩
    exact ⟨(k, r), Std.TreeMap.mem_toList_iff_getElem?_eq_some.2 hk, rfl⟩

theorem KeysTellApart.entry (h : KeysTellApart packageStats) {k : String}
    {r : BundleActivePackageStats} (hr : (packageStats.foldl mergePackageStat {})[k]? = some r) :
    k = r.usageKey ∧ (∃ s ∈ packageStats, s.identity = r.identity) ∧
      MergedFrom (ownStats packageStats r) r ∧
      ∃ first, (ownStats packageStats r).head? = some first ∧ SameOtherFields first r := by
  obtain ⟨s, hs, rfl⟩ := exists_of_getElem?_merged hr
  obtain ⟨r', hr', hid, hmerged, hfirst⟩ := h.getElem?_usageKey hs
  obtain rfl : r' = r := Option.some.inj (hr'.symm.trans hr)
  have hown : ownStats packageStats r' = ownStats packageStats s := by
    unfold ownStats
    rw [hid]
  rw [hown]
  exact ⟨BundleActivePackageStats.usageKey_eq hid.symm, ⟨s, hs, hid.symm⟩, hmerged, hfirst⟩

theorem KeysTellApart.map_usageKey (h : KeysTellApart packageStats) :
    (mergePackageStats packageStats).map (·.usageKey) =
      (packageStats.foldl mergePackageStat {}).toList.map Prod.fst := by
  rw [mergePackageStats_eq, List.map_map]
  refine List.map_congr_left fun entry hentry => ?_
  obtain ⟨k, r⟩ := entry
  exact (h.entry (Std.TreeMap.mem_toList_iff_getElem?_eq_some.1 hentry)).1.symm

theorem KeysTellApart.nodup_identity (h : KeysTellApart packageStats) :
    ((mergePackageStats packageStats).map (·.identity)).Nodup := by
  have hkeys : ((mergePackageStats packageStats).map (·.usageKey)).Nodup := by
    rw [h.map_usageKey]
    exact Entries.nodup_keys_toList _
  have hmap : (mergePackageStats packageStats).map (·.usageKey) =
      ((mergePackageStats packageStats).map (·.identity)).map
        fun p => getBundleUsageKey p.1 p.2 := by
    rw [List.map_map]
    rfl
  rw [hmap] at hkeys
  exact hkeys.of_map _

theorem KeysTellApart.mem_identity (h : KeysTellApart packageStats) (p : String × ℤ) :
    p ∈ (mergePackageStats packageStats).map (·.identity) ↔ p ∈ packageStats.map (·.identity) := by
  rw [List.mem_map, List.mem_map]
  refine ⟨?_, ?_⟩
  · rintro ⟨r, hr, rfl⟩
    obtain ⟨k, hk⟩ := mem_mergePackageStats.1 hr
    exact (h.entry hk).2.1
  · rintro ⟨s, hs, rfl⟩
    obtain ⟨r, hr, hid, -⟩ := h.getElem?_usageKey hs
    exact ⟨r, mem_mergePackageStats.2 ⟨_, hr⟩, hid⟩

theorem KeysTellApart.perm (h : KeysTellApart packageStats)
    {packageStats' : List BundleActivePackageStats} (hperm : packageStats.Perm packageStats') :
    KeysTellApart packageStats' := fun s hs s' hs' =>
  h s (hperm.mem_iff.2 hs) s' (hperm.mem_iff.2 hs')

theorem KeysTellApart.sum_eq (h : KeysTellApart packageStats) (measure : BundleActivePackageStats → ℤ)
    (hmeasure : ∀ r ∈ mergePackageStats packageStats,
      measure r = ((ownStats packageStats r).map measure).sum) :
    ((mergePackageStats packageStats).map measure).sum = (packageStats.map measure).sum := by
  have hkeys := KeyedFold.sum_map_filter (·.identity) measure h.nodup_identity packageStats
    fun s hs => (h.mem_identity _).2 (List.mem_map_of_mem hs)
  rw [List.map_map] at hkeys
  rw [← hkeys]
  exact congrArg List.sum (List.map_congr_left hmeasure)

/-! ### What a merge gives -/

theorem mergePackageStats_spec (packageStats : List BundleActivePackageStats)
    (hkeys : KeysTellApart packageStats) :
    (((mergePackageStats packageStats).map (·.identity)).Nodup ∧
      ∀ p, p ∈ (mergePackageStats packageStats).map (·.identity) ↔
        p ∈ packageStats.map (·.identity)) ∧
    (∀ r ∈ mergePackageStats packageStats, MergedFrom (ownStats packageStats r) r ∧
      ∃ first, (ownStats packageStats r).head? = some first ∧ SameOtherFields first r) ∧
    (∀ packageStats', packageStats.Perm packageStats' →
      ∀ r ∈ mergePackageStats packageStats, ∀ r' ∈ mergePackageStats packageStats',
        r.identity = r'.identity → r.mergedFields = r'.mergedFields) ∧
    ((mergePackageStats packageStats).map (·.totalInFrontTime)).sum =
      (packageStats.map (·.totalInFrontTime)).sum ∧
    ((mergePackageStats packageStats).map (·.totalContiniousTaskUsedTime)).sum =
      (packageStats.map (·.totalContiniousTaskUsedTime)).sum := by
  have hentry : ∀ {l : List BundleActivePackageStats}, KeysTellApart l →
      ∀ r ∈ mergePackageStats l, MergedFrom (ownStats l r) r ∧
        ∃ first, (ownStats l r).head? = some first ∧ SameOtherFields first r := by
    intro l hl r hr
    obtain ⟨k, hk⟩ := mem_mergePackageStats.1 hr
    exact (hl.entry hk).2.2
  refine ⟨⟨hkeys.nodup_identity, hkeys.mem_identity⟩, hentry hkeys, ?_, ?_, ?_⟩
  · intro packageStats' hperm r hr r' hr' hid
    refine (hentry hkeys r hr).1.mergedFields_eq (hentry (hkeys.perm hperm) r' hr').1 ?_
    unfold ownStats
    rw [hid]
    exact hperm.filter _
  · exact hkeys.sum_eq _ fun r hr => (hentry hkeys r hr).1.totalInFrontTime
  · exact hkeys.sum_eq _ fun r hr => (hentry hkeys r hr).1.totalContiniousTaskUsedTime

/-- Two entries of one bundle that started counting at different times, and an entry of another. -/
def differentBegins : List BundleActivePackageStats :=
  [{ bundleName := "com.example.mail", uid := 20010, beginTimeStamp := 1000, totalInFrontTime := 5 },
    { bundleName := "com.example.notes", uid := 20011, beginTimeStamp := 1500, totalInFrontTime := 9 },
    { bundleName := "com.example.mail", uid := 20010, beginTimeStamp := 2000, totalInFrontTime := 7 }]

theorem mergePackageStats_spec_begins :
    ((mergePackageStats differentBegins).map (·.totalInFrontTime)).sum = 21 :=
  (mergePackageStats_spec differentBegins (by decide +kernel)).2.2.2.1

/-- The begin of the counting is that of the entry that comes first. -/
theorem mergePackageStats_order :
    KeysTellApart differentBegins ∧ differentBegins.Perm differentBegins.reverse ∧
      (mergePackageStats differentBegins).map (fun r => (r.identity, r.beginTimeStamp)) ≠
        (mergePackageStats differentBegins.reverse).map fun r => (r.identity, r.beginTimeStamp) :=
  ⟨by decide +kernel, (List.reverse_perm _).symm, by decide +kernel⟩

end DeviceUsageStats
