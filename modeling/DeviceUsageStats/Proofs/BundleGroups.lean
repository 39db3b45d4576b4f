import DeviceUsageStats.Sanity.HistoryRun
import DeviceUsageStats.Spec.GroupQueries

/-! The operations on the group of a bundle visit the keys that contain the bundle's name and look the
bundle up under the uid of each. They stay with the bundle's own entries exactly if each visited uid is
one of the bundle's, and no visited entry of another bundle was used before them. -/

namespace DeviceUsageStats
namespace HistoryState

variable {s s' : HistoryState} {m m₁ : OneUserHistory} {u t : ℤ} {b : String}
  {c : BundleActiveGroupController}

def entriesOf (m : OneUserHistory) (bundleName : String) : List BundleActivePackageHistory :=
  (m.toList.map Prod.snd).filter (·.bundleName = bundleName)

theorem mem_entriesOf {e : BundleActivePackageHistory} :
    e ∈ entriesOf m b ↔ (∃ k : String, m[k]? = some e) ∧ e.bundleName = b := by
  simp only [entriesOf, List.mem_filter, List.mem_map, Prod.exists, exists_eq_right,
    Std.TreeMap.mem_toList_iff_getElem?_eq_some, decide_eq_true_eq]

/-- An entry up to the mark of a change, which a flush takes off. -/
def upToFlush (isFlush : Bool) (e : BundleActivePackageHistory) : BundleActivePackageHistory :=
  if isFlush then unmarked e else e

def leastOf (value : BundleActivePackageHistory → ℤ) (top : ℤ) (m : OneUserHistory)
    (bundleName : String) : ℤ :=
  (entriesOf m bundleName).foldl (fun least e => min least (value e)) top

theorem le_leastOf_iff {value : BundleActivePackageHistory → ℤ} {top x : ℤ} :
    x ≤ leastOf value top m b ↔ x ≤ top ∧ ∀ e ∈ entriesOf m b, x ≤ value e := by
  unfold leastOf
  rw [Entries.le_foldl_iff fun e => some (value e)]
  · simp
  · simp

/-- What the operations on the group of a bundle are to do, for a user whose histories are in memory. -/
structure GroupOpsExact (s : HistoryState) (u : ℤ) (m : OneUserHistory) (b : String) : Prop where
  set : ∀ (newGroup : ℤ) (reason : ℕ) (t : ℤ) (isFlush : Bool), ∃ m' : OneUserHistory,
    (s.setAppGroupOfBundle b u newGroup reason t isFlush true).2.userHistory[u]? = some m' ∧
      ∀ k : String, (m[k]? = none → m'[k]? = none) ∧
        ∀ e, m[k]? = some e → e.bundleName ≠ b →
          (m'[k]?).map (upToFlush isFlush) = some (upToFlush isFlush e)
  others : ∀ (newGroup : ℤ) (reason : ℕ) (t : ℤ) (isFlush : Bool) (u' : ℤ), u' ≠ u →
    (s.setAppGroupOfBundle b u newGroup reason t isFlush true).2.userHistory[u']? =
      s.userHistory[u']?
  query : b ≠ "" → ∀ t, s.queryAppGroup b u t true =
    .ok (leastOf (·.currentGroup) activeGroupNever m b)
  idle : ∀ t, s.isBundleIdle b u t true =
    if ∀ e ∈ entriesOf m b, e.currentGroup > activeGroupRare then 1 else 0
  first : s.getFirstUseTime b u = leastOf (·.bundlefirstUseTimeStamp) maxEndTime m b

/-- Each uid under a key that contains the bundle's name is one of the bundle's. -/
def VisitsOwn (m : OneUserHistory) (b : String) : Prop :=
  ∀ (k : String) (e : BundleActivePackageHistory), m[k]? = some e → keyContains k b = true →
    ∃ own, m[getBundleUsageKey b e.uid]? = some own ∧ own.bundleName = b

/-- No entry under a key that contains the bundle's name was first used before the bundle. -/
def FirstUsed (m : OneUserHistory) (b : String) : Prop :=
  ∀ (k : String) (e : BundleActivePackageHistory), m[k]? = some e → keyContains k b = true →
    maxEndTime ≤ e.bundlefirstUseTimeStamp ∨
      ∃ own ∈ entriesOf m b, own.bundlefirstUseTimeStamp ≤ e.bundlefirstUseTimeStamp

theorem keyContains_getBundleUsageKey (b : String) (uid : ℤ) :
    keyContains (getBundleUsageKey b uid) b = true := by
  refine decide_eq_true ?_
  rw [getBundleUsageKey, String.toList_append]
  exact (List.prefix_append _ _).isInfix

theorem visited_of_keyed (hs : s.Keyed) (hm : s.userHistory[u]? = some m) {k : String}
    {e : BundleActivePackageHistory} (he : m[k]? = some e) (hname : e.bundleName = b) :
    keyContains k b = true ∧ getBundleUsageKey b e.uid = k := by
  have hkey := hs.memory hm he
  rw [hname] at hkey
  exact ⟨hkey ▸ keyContains_getBundleUsageKey b e.uid, hkey⟩

/-! ### Settings -/

theorem setHistory_upToFlush {isFlush : Bool} {e e' : BundleActivePackageHistory}
    (h : upToFlush isFlush e = upToFlush isFlush e') (newGroup : ℤ) (reason : ℕ) :
    upToFlush isFlush (setHistory e newGroup reason) =
      upToFlush isFlush (setHistory e' newGroup reason) := by
  cases isFlush with
  | false =>
    have heq : e = e' := h
    rw [heq]
  | true =>
    have hunmarked : unmarked e = unmarked e' := h
    have hset : ∀ e₁ : BundleActivePackageHistory, unmarked (setHistory e₁ newGroup reason) =
        { unmarked e₁ with currentGroup := newGroup, reasonInGroup := reason } := by
      intro e₁
      unfold setHistory
      split_ifs with hsame
      · obtain ⟨rfl, rfl⟩ := hsame
        rfl
      · rfl
    change unmarked _ = unmarked _
    rw [hset, hset, hunmarked]

theorem setHistory_setHistory (e : BundleActivePackageHistory) (newGroup : ℤ) (reason : ℕ) :
    setHistory (setHistory e newGroup reason) newGroup reason = setHistory e newGroup reason := by
  rw [setHistory, if_pos (setHistory_group e newGroup reason)]

theorem setAppGroup_memory {uid : ℤ} (newGroup : ℤ) (reason : ℕ) (t : ℤ) (isFlush : Bool)
    {e : BundleActivePackageHistory} (hm : s.userHistory[u]? = some m)
    (he : m[getBundleUsageKey b uid]? = some e) :
    (∀ u', u' ≠ u → (s.setAppGroup b u uid t newGroup reason isFlush).2.userHistory[u']? =
        s.userHistory[u']?) ∧
      ∃ m' : OneUserHistory,
        (s.setAppGroup b u uid t newGroup reason isFlush).2.userHistory[u]? = some m' ∧
          ∀ k, (m'[k]?).map (upToFlush isFlush) =
            (if k = getBundleUsageKey b uid then some (setHistory e newGroup reason)
              else m[k]?).map (upToFlush isFlush) := by
  have hu : u ∈ s.userHistory := by
    rw [Std.TreeMap.mem_iff_isSome_getElem?, hm]
    rfl
  unfold setAppGroup
  rw [getUsageHistoryForBundle_false b u t uid hu, historyOf_of_memory hm, he]
  simp only
  by_cases hsame : e.currentGroup = newGroup ∧ e.reasonInGroup = reason
  · rw [if_pos hsame]
    refine ⟨fun _ _ => rfl, m, hm, fun k => ?_⟩
    split_ifs with hk
    · rw [hk, he, setHistory, if_pos hsame]
    · rfl
  rw [if_neg hsame]
  set e' : BundleActivePackageHistory :=
    { e with currentGroup := newGroup, reasonInGroup := reason, isChanged := true }
  have hset : setHistory e newGroup reason = e' := if_neg hsame
  have hput : (s.putEntry u (getBundleUsageKey b uid) e').userHistory[u]? =
      some (m.insert (getBundleUsageKey b uid) e') := by
    unfold putEntry
    rw [Std.TreeMap.getElem?_modify_self, hm]
    rfl
  have hother : ∀ u', u' ≠ u →
      (s.putEntry u (getBundleUsageKey b uid) e').userHistory[u']? = s.userHistory[u']? := by
    intro u' hu'
    unfold putEntry
    rw [Std.TreeMap.getElem?_modify,
      if_neg fun heq => hu' (Std.LawfulEqCmp.eq_of_compare heq).symm]
  have hread : ∀ k, (m.insert (getBundleUsageKey b uid) e')[k]? =
      if k = getBundleUsageKey b uid then some (setHistory e newGroup reason) else m[k]? := by
    intro k
    rw [Std.TreeMap.getElem?_insert, hset]
    by_cases hk : k = getBundleUsageKey b uid
    · rw [if_pos hk, if_pos (hk ▸ Std.ReflCmp.compare_self)]
    · rw [if_neg hk, if_neg fun heq => hk (Std.LawfulEqCmp.eq_of_compare heq).symm]
  cases isFlush with
  | false => exact ⟨hother, _, hput, fun k => by rw [hread]⟩
  | true =>
    -- the flush takes off every mark of the user
    refine ⟨fun u' hu' => ?_,
      Entries.mapEntries (fun _ => unmarked) (m.insert (getBundleUsageKey b uid) e'), ?_, fun k => ?_⟩
    · change ((s.putEntry u _ e').writeBundleUsage u).userHistory[u']? = _
      rw [userHistory_writeBundleUsage hput, Std.TreeMap.getElem?_insert,
        if_neg fun heq => hu' (Std.LawfulEqCmp.eq_of_compare heq).symm, hother u' hu']
    · change ((s.putEntry u _ e').writeBundleUsage u).userHistory[u]? = _
      rw [userHistory_writeBundleUsage hput, Std.TreeMap.getElem?_insert_self]
    · rw [Entries.getElem?_mapEntries, hread, Option.map_map]
      rfl

theorem setAppGroupStep_memory {r : ErrCode × HistoryState} (newGroup : ℤ) (reason : ℕ) (t : ℤ)
    (isFlush : Bool) {entry : String × BundleActivePackageHistory} {e : BundleActivePackageHistory}
    (hm : r.2.userHistory[u]? = some m) (hname : keyContains entry.1 b = true)
    (he : m[getBundleUsageKey b entry.2.uid]? = some e) :
    (setAppGroupStep b u newGroup reason t isFlush r entry).2 =
      (r.2.setAppGroup b u entry.2.uid t newGroup reason isFlush).2 := by
  have hadded : ((r.2.userHistory[u]?).bind (·[getBundleUsageKey b entry.2.uid]?)).isNone =
      false := by
    rw [hm, Option.bind_some, he]
    rfl
  have hget : r.2.getUsageHistoryForBundle b u t true entry.2.uid = (some e, r.2) := by
    unfold getUsageHistoryForBundle getUserHistory getUsageHistoryInUserHistory
    simp only [hm, he]
  unfold setAppGroupStep
  rw [if_pos hname]
  simp only [hadded, hget, Bool.false_eq_true, false_and, if_false]

def lookedUp (b : String) (l : List (String × BundleActivePackageHistory)) : List String :=
  l.filterMap fun entry =>
    if keyContains entry.1 b then some (getBundleUsageKey b entry.2.uid) else none

theorem lookedUp_cons (b : String) (entry : String × BundleActivePackageHistory)
    (l : List (String × BundleActivePackageHistory)) : lookedUp b (entry :: l) =
      if keyContains entry.1 b then getBundleUsageKey b entry.2.uid :: lookedUp b l
      else lookedUp b l := by
  unfold lookedUp
  split_ifs with h <;> simp [h]

theorem mem_lookedUp {k : String} : k ∈ lookedUp b m.toList ↔
    ∃ (k' : String) (e : BundleActivePackageHistory),
      m[k']? = some e ∧ keyContains k' b = true ∧ getBundleUsageKey b e.uid = k := by
  simp only [lookedUp, List.mem_filterMap, Prod.exists, Std.TreeMap.mem_toList_iff_getElem?_eq_some,
    Option.ite_none_right_eq_some, Option.some_inj]

/-- The entries under the keys that were looked up are set, the others are as before. -/
def SetUnder (m m' : OneUserHistory) (keys : List String) (newGroup : ℤ) (reason : ℕ)
    (isFlush : Bool) : Prop :=
  ∀ k : String, (m'[k]?).map (upToFlush isFlush) =
    (m[k]?).map fun e => upToFlush isFlush (if k ∈ keys then setHistory e newGroup reason else e)

theorem foldl_setAppGroupStep (newGroup : ℤ) (reason : ℕ) (t : ℤ) (isFlush : Bool)
    (l : List (String × BundleActivePackageHistory)) {r : ErrCode × HistoryState}
    (hfound : ∀ entry ∈ l, keyContains entry.1 b = true →
      (m[getBundleUsageKey b entry.2.uid]?).isSome)
    (keys : List String) (hm : r.2.userHistory[u]? = some m₁)
    (hset : SetUnder m m₁ keys newGroup reason isFlush) :
    (∀ u', u' ≠ u →
        (l.foldl (setAppGroupStep b u newGroup reason t isFlush) r).2.userHistory[u']? =
          r.2.userHistory[u']?) ∧
      ∃ m' : OneUserHistory,
        (l.foldl (setAppGroupStep b u newGroup reason t isFlush) r).2.userHistory[u]? = some m' ∧
          SetUnder m m' (lookedUp b l ++ keys) newGroup reason isFlush := by
  induction l generalizing r m₁ keys with
  | nil => exact ⟨fun _ _ => rfl, m₁, hm, hset⟩
  | cons entry l ih =>
    rw [List.foldl_cons]
    have hrest : ∀ entry' ∈ l, keyContains entry'.1 b = true →
        (m[getBundleUsageKey b entry'.2.uid]?).isSome := fun entry' h =>
      hfound entry' (List.mem_cons_of_mem _ h)
    by_cases hname : keyContains entry.1 b = true
    · obtain ⟨e, he⟩ := Option.isSome_iff_exists.1 (hfound entry List.mem_cons_self hname)
      set K := getBundleUsageKey b entry.2.uid with hK
      -- the entry that the round finds in the map as it is by now
      obtain ⟨e₁, he₁⟩ : ∃ e₁, m₁[K]? = some e₁ := by
        have h := hset K
        rw [he, Option.map_some] at h
        obtain ⟨e₁, he₁, -⟩ := Option.map_eq_some_iff.1 h
        exact ⟨e₁, he₁⟩
      have hstep := setAppGroupStep_memory newGroup reason t isFlush hm hname he₁
      obtain ⟨hother, m₂, hm₂, hread⟩ := setAppGroup_memory newGroup reason t isFlush hm he₁
      rw [← hstep] at hother hm₂
      have hset₂ : SetUnder m m₂ (K :: keys) newGroup reason isFlush := by
        intro k
        rw [hread]
        by_cases hk : k = K
        · have h := hset K
          rw [he₁, he, Option.map_some, Option.map_some, Option.some_inj] at h
          rw [if_pos hk, hk, he, Option.map_some, Option.map_some, if_pos List.mem_cons_self,
            setHistory_upToFlush h]
          split_ifs
          · rw [setHistory_setHistory]
          · rfl
        · rw [if_neg hk, hset k]
          simp only [List.mem_cons, hk, false_or]
      obtain ⟨hother', m', hm', hset'⟩ := ih hrest (K :: keys) hm₂ hset₂
      refine ⟨fun u' hu' => (hother' u' hu').trans (hother u' hu'), m', hm', fun k => ?_⟩
      rw [hset' k, lookedUp_cons, if_pos hname]
      simp only [List.mem_append, List.mem_cons, or_left_comm, or_assoc, hK]
    · have hskip : setAppGroupStep b u newGroup reason t isFlush r entry = r := if_neg hname
      rw [hskip, lookedUp_cons, if_neg hname]
      exact ih hrest keys hm hset

theorem SetTo.group {k K : String} {e : BundleActivePackageHistory} {g : ℤ}
    (h : SetTo u K e s s') (he : e.currentGroup = g)
    (hk : (s.historyOf u k).map (·.currentGroup) = some g) :
    (s'.historyOf u k).map (·.currentGroup) = some g := by
  obtain ⟨s₁, flushed, changes, hputs, hu, rfl⟩ := h.set
  have hk₁ : (s₁.historyOf u k).map (·.currentGroup) = some g := by
    rw [hputs.entry]
    split_ifs
    · rw [Option.map_some, he]
    · exact hk
  change ((if flushed = true then s₁.writeBundleUsage u else s₁).historyOf u k).map _ = _
  split_ifs
  · rw [historyOf_writeBundleUsage_self hu, Option.map_map]
    exact hk₁
  · exact hk₁

theorem setAppGroupOfBundle_exact (hs : s.Keyed) (hm : s.userHistory[u]? = some m)
    (own : VisitsOwn m b) (newGroup : ℤ) (reason : ℕ) (t : ℤ) (isFlush : Bool) :
    (∀ u', u' ≠ u →
        (s.setAppGroupOfBundle b u newGroup reason t isFlush true).2.userHistory[u']? =
          s.userHistory[u']?) ∧
      ∃ m' : OneUserHistory,
        (s.setAppGroupOfBundle b u newGroup reason t isFlush true).2.userHistory[u]? = some m' ∧
          ∀ k : String, (m'[k]?).map (upToFlush isFlush) = (m[k]?).map fun e =>
            upToFlush isFlush (if e.bundleName = b then setHistory e newGroup reason else e) := by
  have hfold : (s.setAppGroupOfBundle b u newGroup reason t isFlush true).2 =
      (m.toList.foldl (setAppGroupStep b u newGroup reason t isFlush) (.errOk, s)).2 := by
    unfold setAppGroupOfBundle
    simp only [Bool.true_eq_false, if_false, hm]
  have hfound : ∀ entry ∈ m.toList, keyContains entry.1 b = true →
      (m[getBundleUsageKey b entry.2.uid]?).isSome := by
    intro entry hentry hname
    obtain ⟨e, he, -⟩ := own entry.1 entry.2
      (Std.TreeMap.mem_toList_iff_getElem?_eq_some.1 hentry) hname
    rw [he]
    rfl
  obtain ⟨hother, m', hm', hset⟩ := foldl_setAppGroupStep newGroup reason t isFlush
    (r := (.errOk, s)) m.toList hfound [] hm
    fun k => by simp only [List.not_mem_nil, if_false]
  rw [hfold]
  refine ⟨hother, m', hm', fun k => ?_⟩
  rw [hset k]
  cases he : m[k]? with
  | none => rfl
  | some e =>
    -- a key was looked up exactly if its entry is the bundle's
    have hkeys : k ∈ lookedUp b m.toList ++ [] ↔ e.bundleName = b := by
      rw [List.append_nil, mem_lookedUp]
      refine ⟨?_, fun hname => ?_⟩
      · rintro ⟨k', visited, hvisited, hname, rfl⟩
        obtain ⟨e', he', hown⟩ := own k' visited hvisited hname
        obtain rfl := Option.some.inj (he.symm.trans he')
        exact hown
      · obtain ⟨hcontains, hkey⟩ := visited_of_keyed hs hm he hname
        exact ⟨k, e, he, hcontains, hkey⟩
    simp only [Option.map_some, hkeys]

/-- Each entry that the scan looked up has the group, whatever bundle it is of. -/
theorem group_foldl_setAppGroupStep (newGroup : ℤ) (reason : ℕ) (t : ℤ) (isFlush : Bool)
    (l : List (String × BundleActivePackageHistory)) {r : ErrCode × HistoryState}
    (hs : r.2.Named) (keys : List String)
    (hkeys : ∀ k ∈ keys, (r.2.historyOf u k).map (·.currentGroup) = some newGroup) :
    ∀ k ∈ lookedUp b l ++ keys,
      ((l.foldl (setAppGroupStep b u newGroup reason t isFlush) r).2.historyOf u k).map
        (·.currentGroup) = some newGroup := by
  induction l generalizing r keys with
  | nil => exact hkeys
  | cons entry l ih =>
    rw [List.foldl_cons, lookedUp_cons]
    by_cases hname : keyContains entry.1 b = true
    · have hset := setAppGroupStep_set hs b u newGroup reason t isFlush hname
      intro k hk
      refine ih (hset.named hs) (getBundleUsageKey b entry.2.uid :: keys) (fun k' hk' => ?_) k ?_
      · rcases List.mem_cons.1 hk' with rfl | hk'
        · obtain ⟨changed, hself⟩ := hset.self
          rw [hself]
          exact congrArg some (setHistory_group _ newGroup reason).1
        · exact hset.group (setHistory_group _ newGroup reason).1 (hkeys k' hk')
      · rw [if_pos hname] at hk
        simpa only [List.mem_append, List.mem_cons, List.cons_append, or_left_comm] using hk
    · have hskip : setAppGroupStep b u newGroup reason t isFlush r entry = r := if_neg hname
      rw [hskip, if_neg hname]
      exact ih hs keys hkeys

theorem visitsOwn_of_exact (hs : s.Named) (hm : s.userHistory[u]? = some m)
    (h : GroupOpsExact s u m b) : VisitsOwn m b := by
  intro k e he hname
  set K := getBundleUsageKey b e.uid
  have hkey : K ∈ lookedUp b m.toList ++ [] := by
    rw [List.append_nil, mem_lookedUp]
    exact ⟨k, e, he, hname, rfl⟩
  -- the entry of the key has the group that was set, whatever group that is
  have hgroup : ∀ newGroup, ∃ m' : OneUserHistory,
      (s.setAppGroupOfBundle b u newGroup groupControlReasonForced 0 false true).2.userHistory[u]? =
        some m' ∧ (m'[K]?).map (·.currentGroup) = some newGroup ∧
        ((m[K]? = none → m'[K]? = none) ∧
          ∀ e', m[K]? = some e' → e'.bundleName ≠ b → m'[K]? = some e') := by
    intro newGroup
    obtain ⟨m', hm', hexact⟩ := h.set newGroup groupControlReasonForced 0 false
    refine ⟨m', hm', ?_, (hexact K).1, fun e' he' hother => ?_⟩
    · rw [← historyOf_of_memory hm' K]
      have hfold := group_foldl_setAppGroupStep (u := u) (b := b) newGroup
        groupControlReasonForced 0 false (r := (.errOk, s)) m.toList hs []
        (fun k hk => by cases hk) K hkey
      unfold setAppGroupOfBundle
      simp only [Bool.true_eq_false, if_false, hm]
      exact hfold
    · obtain ⟨e₁, he₁, heq⟩ := Option.map_eq_some_iff.1 ((hexact K).2 e' he' hother)
      rw [he₁]
      exact congrArg some heq
  cases hown : m[K]? with
  | none =>
    obtain ⟨m', -, hset, hnone, -⟩ := hgroup 0
    rw [hnone hown] at hset
    cases hset
  | some own =>
    refine ⟨own, rfl, ?_⟩
    by_contra hother
    obtain ⟨m', -, hset, -, hsame⟩ := hgroup (own.currentGroup + 1)
    rw [hsame own hown hother, Option.map_some, Option.some_inj] at hset
    omega

/-! ### Queries -/

theorem scannedHistory_iff (hs : s.Keyed) (hm : s.userHistory[u]? = some m) (own : VisitsOwn m b)
    {e : BundleActivePackageHistory} :
    (∃ entry ∈ m.toList, s.scannedHistory b u t entry = some e) ↔ e ∈ entriesOf m b := by
  have hu : u ∈ s.userHistory := by
    rw [Std.TreeMap.mem_iff_isSome_getElem?, hm]
    rfl
  have hscan : ∀ entry, s.scannedHistory b u t entry =
      if keyContains entry.1 b then m[getBundleUsageKey b entry.2.uid]? else none := fun entry => by
    unfold scannedHistory
    rw [getUsageHistoryForBundle_false b u t entry.2.uid hu, historyOf_of_memory hm]
  simp only [hscan, Option.ite_none_right_eq_some, Prod.exists, mem_entriesOf,
    Std.TreeMap.mem_toList_iff_getElem?_eq_some]
  refine ⟨?_, ?_⟩
  · rintro ⟨k, visited, hvisited, hname, he⟩
    obtain ⟨e', he', hown⟩ := own k visited hvisited hname
    obtain rfl := Option.some.inj (he.symm.trans he')
    exact ⟨⟨_, he⟩, hown⟩
  · rintro ⟨⟨k, he⟩, hname⟩
    obtain ⟨hcontains, hkey⟩ := visited_of_keyed hs hm he hname
    exact ⟨k, e, he, hcontains, by rw [hkey, he]⟩

theorem queryAppGroup_exact (hs : s.Keyed) (hm : s.userHistory[u]? = some m) (own : VisitsOwn m b)
    (hb : b ≠ "") (t : ℤ) :
    s.queryAppGroup b u t true = .ok (leastOf (·.currentGroup) activeGroupNever m b) := by
  unfold queryAppGroup
  simp only [hb, Bool.true_eq_false, if_false, hm]
  congr 1
  -- both are the greatest lower bound of the groups and of `activeGroupNever`
  refine eq_of_forall_le_iff fun x => ?_
  rw [le_leastOf_iff, Entries.le_foldl_iff fun entry =>
    (s.scannedHistory b u t entry).map (·.currentGroup)]
  · refine and_congr_right fun _ => ⟨fun h e he => ?_, fun h entry hentry v hv => ?_⟩
    · obtain ⟨entry, hentry, hscan⟩ := (scannedHistory_iff (t := t) hs hm own).2 he
      exact h entry hentry _ (by rw [hscan]; rfl)
    · obtain ⟨e, he, rfl⟩ := Option.map_eq_some_iff.1 hv
      exact h e ((scannedHistory_iff hs hm own).1 ⟨entry, hentry, he⟩)
  · intro least entry x
    cases s.scannedHistory b u t entry with
    | none => simp
    | some e => simp [and_comm]

theorem isBundleIdle_exact (hs : s.Keyed) (hm : s.userHistory[u]? = some m) (own : VisitsOwn m b)
    (t : ℤ) : s.isBundleIdle b u t true =
      if ∀ e ∈ entriesOf m b, e.currentGroup > activeGroupRare then 1 else 0 := by
  unfold isBundleIdle
  simp only [Bool.true_eq_false, if_false, hm]
  rw [Entries.foldl_set (fun entry =>
    (s.scannedHistory b u t entry).any (·.currentGroup ≤ activeGroupRare)) 0]
  · have hany : (m.toList.any fun entry =>
        (s.scannedHistory b u t entry).any (·.currentGroup ≤ activeGroupRare)) = true ↔
        ¬ ∀ e ∈ entriesOf m b, e.currentGroup > activeGroupRare := by
      simp only [List.any_eq_true, Option.any_eq_true, decide_eq_true_eq,
        ← scannedHistory_iff (t := t) hs hm own]
      push Not
      refine ⟨fun ⟨entry, hentry, e, he, hrare⟩ => ⟨e, ⟨entry, hentry, he⟩, hrare⟩,
        fun ⟨e, ⟨entry, hentry, he⟩, hrare⟩ => ⟨entry, hentry, e, he, hrare⟩⟩
    rw [if_congr hany rfl rfl, ite_not]
  · intro idle entry
    cases s.scannedHistory b u t entry with
    | none => rfl
    | some e => simp

/-- The scan takes the first-use time of each entry that it visits, whose bundle it does not ask for. -/
theorem getFirstUseTime_exact_iff (hs : s.Keyed) (hm : s.userHistory[u]? = some m) :
    s.getFirstUseTime b u = leastOf (·.bundlefirstUseTimeStamp) maxEndTime m b ↔
      FirstUsed m b := by
  have hscan : ∀ x, x ≤ s.getFirstUseTime b u ↔ x ≤ maxEndTime ∧
      ∀ (k : String) (e : BundleActivePackageHistory), m[k]? = some e → keyContains k b = true →
        x ≤ e.bundlefirstUseTimeStamp := by
    intro x
    unfold getFirstUseTime getUserHistory
    rw [hm]
    simp only
    rw [Entries.le_foldl_iff fun entry : String × BundleActivePackageHistory =>
      if keyContains entry.1 b then some entry.2.bundlefirstUseTimeStamp else none]
    · simp [Std.TreeMap.mem_toList_iff_getElem?_eq_some]
    · intro least entry x
      split_ifs <;> simp
  refine ⟨fun heq k e he hname => ?_, fun h => eq_of_forall_le_iff fun x => ?_⟩
  · by_contra hnot
    rw [not_or, not_le, not_exists] at hnot
    -- the visited entry is below the least of the bundle's
    have hbound : e.bundlefirstUseTimeStamp + 1 ≤
        leastOf (·.bundlefirstUseTimeStamp) maxEndTime m b :=
      le_leastOf_iff.2 ⟨hnot.1, fun own hown => not_le.1 fun hle => hnot.2 own ⟨hown, hle⟩⟩
    rw [← heq, hscan] at hbound
    have hvisited := hbound.2 k e he hname
    omega
  · rw [hscan, le_leastOf_iff]
    refine and_congr_right fun htop => ⟨fun hall e hown => ?_, fun hall k e he hname => ?_⟩
    · obtain ⟨⟨k, he⟩, hname⟩ := mem_entriesOf.1 hown
      exact hall k e he (visited_of_keyed hs hm he hname).1
    · rcases h k e he hname with hmax | ⟨own, hown, hle⟩
      · exact htop.trans hmax
      · exact (hall own hown).trans hle

/-- The operations on the group of a bundle are exact exactly if no other bundle's entry under a key
that contains the name misleads them: neither by its uid nor by its first-use time. -/
theorem groupOpsExact_iff {Start : HistoryTables → Prop} {Allowed : HistoryState → HistoryOp → Prop}
    (run : Run c Start Allowed s) (hm : s.userHistory[u]? = some m) :
    GroupOpsExact s u m b ↔ VisitsOwn m b ∧ FirstUsed m b := by
  have hs := keyed_run run
  refine ⟨fun h => ⟨visitsOwn_of_exact (named_run run) hm h,
    (getFirstUseTime_exact_iff hs hm).1 h.first⟩, fun ⟨own, first⟩ => ?_⟩
  refine ⟨fun newGroup reason t isFlush => ?_, fun newGroup reason t isFlush =>
    (setAppGroupOfBundle_exact hs hm own newGroup reason t isFlush).1,
    queryAppGroup_exact hs hm own, isBundleIdle_exact hs hm own,
    (getFirstUseTime_exact_iff hs hm).2 first⟩
  obtain ⟨-, m', hm', hset⟩ := setAppGroupOfBundle_exact hs hm own newGroup reason t isFlush
  refine ⟨m', hm', fun k => ⟨fun hnone => ?_, fun e he hother => ?_⟩⟩
  · have h := hset k
    rw [hnone, Option.map_none, Option.map_eq_none_iff] at h
    exact h
  · rw [hset k, he, Option.map_some, if_neg hother]

/-- Two bundles in use, the name of one a prefix of the other's. -/
def prefixBundles : HistoryState :=
  let c := BundleActiveGroupController.init false
  ((new {} 1000).apply c (.checkAndUpdateGroup "com.example" 100 20010001 5000)).apply c
    (.checkAndUpdateGroup "com.example.mail" 100 20010002 5000)

def prefixHistory : OneUserHistory := (prefixBundles.userHistory[(100 : ℤ)]?).getD {}

theorem run_prefixBundles : Run (.init false) (fun _ => True) (fun _ _ => True) prefixBundles :=
  .step (.checkAndUpdateGroup "com.example.mail" 100 20010002 5000)
    (.step (.checkAndUpdateGroup "com.example" 100 20010001 5000) (.start {} 1000 trivial) trivial)
    trivial

theorem prefixHistory_memory : prefixBundles.userHistory[(100 : ℤ)]? = some prefixHistory := by
  have h : (prefixBundles.userHistory[(100 : ℤ)]?).isSome = true := by decide +kernel
  obtain ⟨m, hm⟩ := Option.isSome_iff_exists.1 h
  rw [prefixHistory, hm]
  rfl

theorem prefixHistory_entry {k : String} {e : BundleActivePackageHistory}
    (he : prefixHistory[k]? = some e) :
    k = "com.example.mail20010002" ∧ e.bundleName = "com.example.mail" ∧ e.uid = 20010002 ∨
      k = "com.example20010001" := by
  have hlist : prefixHistory.toList.map
      (fun entry => (entry.1, entry.2.bundleName, entry.2.uid)) =
        [("com.example.mail20010002", "com.example.mail", 20010002),
          ("com.example20010001", "com.example", 20010001)] := by
    decide +kernel
  have hmem : (k, e.bundleName, e.uid) ∈ prefixHistory.toList.map
      fun entry => (entry.1, entry.2.bundleName, entry.2.uid) :=
    List.mem_map.2 ⟨(k, e), Std.TreeMap.mem_toList_iff_getElem?_eq_some.2 he, rfl⟩
  rw [hlist, List.mem_cons, List.mem_singleton] at hmem
  simp only [Prod.mk.injEq] at hmem
  exact hmem.imp_right And.left

/-- A group that is set for `com.example` creates an entry for it under the uid of the other bundle. -/
theorem groupOps_not_exact : Run (.init false) (fun _ => True) (fun _ _ => True) prefixBundles ∧
    prefixBundles.userHistory[(100 : ℤ)]? = some prefixHistory ∧
      ¬ GroupOpsExact prefixBundles 100 prefixHistory "com.example" := by
  refine ⟨run_prefixBundles, prefixHistory_memory, fun h => ?_⟩
  obtain ⟨m', hm', hexact⟩ := h.set activeGroupRare groupControlReasonForced 9000 false
  have hnone := (hexact "com.example20010002").1 (by decide +kernel)
  have hcreated : (((prefixBundles.setAppGroupOfBundle "com.example" 100 activeGroupRare
      groupControlReasonForced 9000 false true).2.userHistory[(100 : ℤ)]?).bind
        (·["com.example20010002"]?)).isSome = true := by
    decide +kernel
  rw [hm', Option.bind_some, hnone] at hcreated
  cases hcreated

/-- The longer name is in no key of another bundle. -/
theorem groupOpsExact_iff_mail :
    GroupOpsExact prefixBundles 100 prefixHistory "com.example.mail" := by
  have hentry : ∀ (k : String) (e : BundleActivePackageHistory), prefixHistory[k]? = some e →
      keyContains k "com.example.mail" = true →
        e.bundleName = "com.example.mail" ∧ e.uid = 20010002 ∧
          k = getBundleUsageKey "com.example.mail" e.uid := by
    intro k e he hname
    rcases prefixHistory_entry he with ⟨rfl, hb, huid⟩ | rfl
    · exact ⟨hb, huid, by rw [huid]; decide +kernel⟩
    · exact absurd hname (by decide +kernel)
  refine (groupOpsExact_iff run_prefixBundles prefixHistory_memory).2 ⟨fun k e he h => ?_,
    fun k e he h => .inr ⟨e, ?_, le_rfl⟩⟩
  · obtain ⟨hb, -, hkey⟩ := hentry k e he h
    exact ⟨e, hkey ▸ he, hb⟩
  · exact mem_entriesOf.2 ⟨⟨k, he⟩, (hentry k e he h).1⟩

end HistoryState
end DeviceUsageStats
