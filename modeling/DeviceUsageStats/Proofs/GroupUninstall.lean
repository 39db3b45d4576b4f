import DeviceUsageStats.Proofs.BundleGroups

/-! An uninstall takes the bundle's histories out of the cache and of the table. The cache is searched for
keys that begin with the bundle's name, so it loses exactly the bundle's entries if no other entry's key
begins with that name. -/

namespace DeviceUsageStats
namespace HistoryState

variable {s : HistoryState} {u uid appIndex : ℤ} {b : String} {c : BundleActiveGroupController}

/-- What an uninstall is about: the instance of the bundle with the uid, or the whole bundle. -/
def OfBundle (bundleName : String) (uid appIndex : ℤ) (name : String) (entryUid : ℤ) : Prop :=
  name = bundleName ∧ (appIndex = 0 ∨ entryUid = uid)

instance (bundleName : String) (uid appIndex : ℤ) (name : String) (entryUid : ℤ) :
    Decidable (OfBundle bundleName uid appIndex name entryUid) :=
  inferInstanceAs (Decidable (_ ∧ _))

def cached (s : HistoryState) (userId : ℤ) (key : String) : Option BundleActivePackageHistory :=
  (s.userHistory[userId]?).bind (·[key]?)

/-- The entries and the rows of the bundle are gone, all others are as they were. -/
structure DeletionExact (s s' : HistoryState) (u : ℤ) (b : String) (uid appIndex : ℤ) : Prop where
  cache : ∀ u' k, s'.cached u' k =
    (s.cached u' k).filter fun e => ¬ (u' = u ∧ OfBundle b uid appIndex e.bundleName e.uid)
  rows : s'.bundleHistoryTable = s.bundleHistoryTable.map (·.filter fun row =>
    ¬ (row.userId = u ∧ OfBundle b uid appIndex row.bundleName row.uid))

/-- Only the bundle's own entries are found by their prefix. An uninstall without a name deletes all rows
of the user, and one for a user whose histories are not in memory deletes none. -/
structure PrefixOwn (s : HistoryState) (u : ℤ) (b : String) (uid appIndex : ℤ) : Prop where
  cache : ∀ k e, s.cached u k = some e → b.toList <+: k.toList →
    OfBundle b uid appIndex e.bundleName e.uid
  rows : ∀ row ∈ s.bundleHistoryTable.getD [], row.userId = u →
    (u ∈ s.userHistory ∧ (b = "" ∨ OfBundle b uid appIndex row.bundleName row.uid) ↔
      OfBundle b uid appIndex row.bundleName row.uid)

theorem cached_onBundleUninstalled (s : HistoryState) (u : ℤ) (b : String) (uid appIndex u' : ℤ)
    (k : String) : (s.onBundleUninstalled u b uid appIndex).cached u' k =
      (s.cached u' k).filter fun _ => ¬ (u' = u ∧ b.toList <+: k.toList) := by
  unfold onBundleUninstalled cached
  by_cases hu : u' = u
  · subst hu
    cases hm : s.userHistory[u']? with
    | none => simp [hm]
    | some m =>
      simp only [Std.TreeMap.getElem?_insert_self, Option.bind_some,
        getElem?_deleteUsageGroupCache, true_and]
  · have hkept : ((s.userHistory[u']?).bind (·[k]?)).filter
        (fun _ => ¬ (u' = u ∧ b.toList <+: k.toList)) = (s.userHistory[u']?).bind (·[k]?) := by
      cases (s.userHistory[u']?).bind (·[k]?) <;> simp [hu]
    rw [hkept]
    cases s.userHistory[u]? with
    | none => rfl
    | some m =>
      simp only [Std.TreeMap.getElem?_insert]
      rw [if_neg fun h => hu (Std.LawfulEqCmp.eq_of_compare h).symm]

theorem bundleHistoryTable_onBundleUninstalled (hs : s.Named) (u : ℤ) (b : String)
    (uid appIndex : ℤ) : (s.onBundleUninstalled u b uid appIndex).bundleHistoryTable =
      s.bundleHistoryTable.map (·.filter fun row => ¬ (row.userId = u ∧ u ∈ s.userHistory ∧
        (b = "" ∨ OfBundle b uid appIndex row.bundleName row.uid))) := by
  unfold onBundleUninstalled
  cases hm : s.userHistory[u]? with
  | none =>
    have hu : u ∉ s.userHistory := by
      rw [Std.TreeMap.mem_iff_isSome_getElem?, hm]
      simp
    simp [hu]
  | some m =>
    have hu : u ∈ s.userHistory := by
      rw [Std.TreeMap.mem_iff_isSome_getElem?, hm]
      rfl
    unfold Named at hs
    cases htable : s.bundleHistoryTable with
    | none => simp
    | some rows =>
      rw [htable] at hs
      simp only [hs, Option.isSome_some, if_true, Option.map_some, deleteUninstalledInfo, hu,
        true_and, OfBundle]

theorem filter_eq_filter_iff {α : Type*} {p q : α → Bool} {l : List α} :
    l.filter p = l.filter q ↔ ∀ x ∈ l, p x = q x := by
  refine ⟨fun h x hx => ?_, List.filter_congr⟩
  rw [Bool.eq_iff_iff]
  have hmem : x ∈ l.filter p ↔ x ∈ l.filter q := by rw [h]
  simpa [hx] using hmem

theorem option_filter_eq_filter_iff {α : Type*} {p q : α → Bool} {x : Option α} :
    x.filter p = x.filter q ↔ ∀ y, x = some y → p y = q y := by
  cases x with
  | none => simp
  | some y =>
    rw [Option.filter_some, Option.filter_some]
    cases hp : p y <;> cases hq : q y <;> simp [hp, hq]

theorem historyOf_of_cached {k : String} {e : BundleActivePackageHistory}
    (h : s.cached u k = some e) : s.historyOf u k = some e := by
  obtain ⟨m, hm, he⟩ := Option.bind_eq_some_iff.1 h
  rw [historyOf_of_memory hm, he]

/-- An uninstall is exact exactly if the prefix finds the bundle's own entries only. -/
theorem onBundleUninstalled_exact_iff {Start : HistoryTables → Prop}
    {Allowed : HistoryState → HistoryOp → Prop} (run : Run c Start Allowed s) (u : ℤ) (b : String)
    (uid appIndex : ℤ) :
    DeletionExact s (s.onBundleUninstalled u b uid appIndex) u b uid appIndex ↔
      PrefixOwn s u b uid appIndex := by
  -- the prefix finds all of the bundle's entries
  have hfound : ∀ k e, s.cached u k = some e → OfBundle b uid appIndex e.bundleName e.uid →
      b.toList <+: k.toList := by
    intro k e he hof
    have hkey := keyed_run run u k e (historyOf_of_cached he)
    rw [hof.1] at hkey
    exact hkey ▸ prefix_getBundleUsageKey b e.uid
  have hcache : (∀ u' k, (s.onBundleUninstalled u b uid appIndex).cached u' k =
        (s.cached u' k).filter fun e => ¬ (u' = u ∧ OfBundle b uid appIndex e.bundleName e.uid)) ↔
      ∀ k e, s.cached u k = some e → b.toList <+: k.toList →
        OfBundle b uid appIndex e.bundleName e.uid := by
    simp only [cached_onBundleUninstalled, option_filter_eq_filter_iff, decide_eq_decide, not_iff_not]
    refine ⟨fun h k e he hk => ((h u k e he).1 ⟨rfl, hk⟩).2, fun h u' k e he => ?_⟩
    refine and_congr_right fun hu => ?_
    subst hu
    exact ⟨h k e he, hfound k e he⟩
  have hrows : (s.onBundleUninstalled u b uid appIndex).bundleHistoryTable =
        s.bundleHistoryTable.map (·.filter fun row =>
          ¬ (row.userId = u ∧ OfBundle b uid appIndex row.bundleName row.uid)) ↔
      ∀ row ∈ s.bundleHistoryTable.getD [], row.userId = u →
        (u ∈ s.userHistory ∧ (b = "" ∨ OfBundle b uid appIndex row.bundleName row.uid) ↔
          OfBundle b uid appIndex row.bundleName row.uid) := by
    rw [bundleHistoryTable_onBundleUninstalled (named_run run)]
    cases s.bundleHistoryTable with
    | none => simp
    | some rows =>
      simp only [Option.map_some, Option.some_inj, filter_eq_filter_iff, Option.getD_some,
        decide_eq_decide, not_iff_not, and_congr_right_iff]
  exact ⟨fun h => ⟨hcache.1 h.cache, hrows.1 h.rows⟩, fun h => ⟨hcache.2 h.cache, hrows.2 h.rows⟩⟩

/-- The uninstall of `com.example` takes the other bundle's entry along. -/
theorem onBundleUninstalled_prefix :
    Run (.init false) (fun _ => True) (fun _ _ => True) prefixBundles ∧
      ¬ DeletionExact prefixBundles (prefixBundles.onBundleUninstalled 100 "com.example" 20010001 0)
        100 "com.example" 20010001 0 := by
  refine ⟨run_prefixBundles, fun h => ?_⟩
  exact absurd (h.cache 100 "com.example.mail20010002") (by decide +kernel)

/-- No other key begins with the longer name. -/
theorem onBundleUninstalled_exact_mail :
    DeletionExact prefixBundles
      (prefixBundles.onBundleUninstalled 100 "com.example.mail" 20010002 1) 100 "com.example.mail"
      20010002 1 := by
  refine (onBundleUninstalled_exact_iff run_prefixBundles 100 "com.example.mail" 20010002 1).2
    ⟨fun k e he hk => ?_, fun row hrow => ?_⟩
  · have hentry : prefixHistory[k]? = some e := by
      rwa [cached, prefixHistory_memory, Option.bind_some] at he
    rcases prefixHistory_entry hentry with ⟨-, hb, huid⟩ | rfl
    · exact ⟨hb, .inr huid⟩
    · exact absurd hk (by decide +kernel)
  · have hempty : prefixBundles.bundleHistoryTable.getD [] = [] := by decide +kernel
    rw [hempty] at hrow
    cases hrow

end HistoryState
end DeviceUsageStats
