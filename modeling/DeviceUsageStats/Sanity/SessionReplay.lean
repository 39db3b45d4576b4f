import DeviceUsageStats.Sanity.Sessions
import DeviceUsageStats.Sanity.UidSets

/-! The two ends of a rollover. What runs is captured under the usage keys before the save, and replayed
after the load bundle by bundle, over the uids known for the name of the bundle in ascending order; the
replay of a bundle stops at the first uid under which nothing was captured. -/

namespace DeviceUsageStats

namespace Session

/-- The key of a session in the map of its states. -/
def name : Session → String
  | ability abilityId => abilityId
  | task longTimeTaskName => longTimeTaskName

/-- The state of a running session. -/
def running : Session → EventId
  | ability _ => .abilityForeground
  | task _ => .longTimeTaskStartted

end Session

/-- The states of the sessions of a kind. -/
def BundleActivePackageStats.statesOf (e : BundleActivePackageStats) :
    Session → Std.TreeMap String EventId
  | .ability _ => e.abilities
  | .task _ => e.longTimeTasks

theorem BundleActivePackageStats.runs_iff {e : BundleActivePackageStats} {x : Session} :
    e.Runs x ↔ (e.statesOf x)[x.name]? = some x.running := by
  cases x <;> rfl

namespace ServiceState

open PackageContainUidMap (getPackageUidSet)
open Session (afterUpdate)

variable (tz : TimeZone) {s s' s'' s₁ : ServiceState} {i : IntervalType} {k b : String} {x : Session}
  {c : ContinueStats}

def ContinueStats.statesOf (c : ContinueStats) :
    Session → Std.TreeMap String (Std.TreeMap String EventId)
  | .ability _ => c.continueAbilities
  | .task _ => c.continueServices

/-! ### The capture -/

/-- The entries of the four periods, in the order of the loops of the capture. -/
def entries (s : ServiceState) : List BundleActivePackageStats :=
  IntervalType.all.flatMap fun i => (s.currentStats i).bundleStats.toList.map Prod.snd

theorem mem_entries {e : BundleActivePackageStats} :
    e ∈ s.entries ↔ ∃ i, ∃ k : String, (s.currentStats i).bundleStats[k]? = some e := by
  simp only [entries, List.mem_flatMap, List.mem_map, Prod.exists, exists_eq_right,
    Std.TreeMap.mem_toList_iff_getElem?_eq_some, DatabaseState.IntervalType.mem_all, true_and]

/-- The session was captured under a usage key. -/
def Captured (c : ContinueStats) (k : String) (x : Session) : Prop :=
  ∃ m, (c.statesOf x)[k]? = some m ∧ m[x.name]? = some x.running

/-- Something of the kind of the session was captured under a usage key. -/
def AnyCaptured (c : ContinueStats) (k : String) (x : Session) : Prop :=
  ((c.statesOf x)[k]?).isSome

theorem statesOf_foldl_note (l : List BundleActivePackageStats) (c : ContinueStats) (x : Session) :
    (l.foldl noteContinueStats c).statesOf x = l.foldl (fun m e =>
      if (e.statesOf x).isEmpty then m
      else m.insert (getBundleUsageKey e.bundleName e.uid) (e.statesOf x)) (c.statesOf x) := by
  induction l generalizing c with
  | nil => rfl
  | cons e l ih =>
    rw [List.foldl_cons, ih]
    cases x <;> rfl

theorem mem_continueBundles_foldl (l : List BundleActivePackageStats) (c : ContinueStats)
    (n : String) : n ∈ (l.foldl noteContinueStats c).continueBundles ↔
      n ∈ c.continueBundles ∨ ∃ e ∈ l, e.bundleName = n := by
  induction l generalizing c with
  | nil => simp
  | cons e l ih =>
    rw [List.foldl_cons, ih]
    simp only [noteContinueStats, Std.TreeSet.mem_insert, Std.LawfulEqCmp.compare_eq_iff_eq,
      List.mem_cons, exists_eq_or_imp]
    tauto

theorem foldl_flushEntry (i : IntervalType) (l : List BundleActivePackageStats)
    (cs : ContinueStats × ServiceState) :
    (l.foldl (flushEntry i) cs).1 = l.foldl noteContinueStats cs.1 ∧
      ∀ j, j ≠ i → (l.foldl (flushEntry i) cs).2.currentStats j = cs.2.currentStats j := by
  induction l generalizing cs with
  | nil => exact ⟨rfl, fun _ _ => rfl⟩
  | cons e l ih =>
    obtain ⟨hfst, hsnd⟩ := ih (flushEntry i cs e)
    refine ⟨hfst, fun j hj => (hsnd j hj).trans ?_⟩
    have hnotify : ∀ s : ServiceState, s.notifyStatsChanged.currentStats = s.currentStats := by
      intro s
      unfold notifyStatsChanged
      split_ifs <;> rfl
    simp only [flushEntry, hnotify]
    exact currentStats_updateStats_of_ne hj ..

/-- The rounds of the capture see the entries as they were before it. -/
theorem flushDataInMem_fst (s : ServiceState) :
    s.flushDataInMem.1 = s.entries.foldl noteContinueStats {} := by
  have hloop : ∀ l : List IntervalType, l.Nodup → ∀ cs : ContinueStats × ServiceState,
      (∀ i ∈ l, cs.2.currentStats i = s.currentStats i) →
      (l.foldl flushDataInMemOf cs).1 =
        (l.flatMap fun i => (s.currentStats i).bundleStats.toList.map Prod.snd).foldl
          noteContinueStats cs.1 := by
    intro l
    induction l with
    | nil => exact fun _ _ _ => rfl
    | cons i l ih =>
      intro hl cs hcs
      obtain ⟨hi, hl⟩ := List.nodup_cons.1 hl
      obtain ⟨hfst, hsnd⟩ := foldl_flushEntry i
        ((cs.2.currentStats i).bundleStats.toList.map Prod.snd) cs
      rw [List.foldl_cons, ih hl, List.flatMap_cons, List.foldl_append]
      · rw [← hcs i (List.mem_cons_self ..), ← hfst]
        rfl
      · intro j hj
        have hne : j ≠ i := fun h => hi (h ▸ hj)
        refine (Function.update_of_ne hne ..).trans ((hsnd j hne).trans ?_)
        exact hcs j (List.mem_cons_of_mem _ hj)
  exact hloop IntervalType.all (by decide) ({}, s) fun _ _ => rfl

theorem mem_continueBundles {n : String} : n ∈ s.flushDataInMem.1.continueBundles ↔
    ∃ e ∈ s.entries, e.bundleName = n := by
  rw [flushDataInMem_fst, mem_continueBundles_foldl]
  simp

/-- Sessions of the kind of `x` are known under a name and a uid. -/
def SomeKnown (s : ServiceState) (x : Session) (n : String) (v : ℤ) : Prop :=
  ∃ i e, (s.currentStats i).bundleStats[getBundleUsageKey n v]? = some e ∧
    (e.statesOf x).isEmpty = false

theorem someKnown_of_runs {n : String} {v : ℤ}
    (h : (s.currentStats i).Runs (getBundleUsageKey n v) x) : s.SomeKnown x n v := by
  obtain ⟨e, hk, hx⟩ := h
  refine ⟨i, e, hk, Std.TreeMap.isEmpty_eq_false_iff_exists_mem.2 ⟨x.name, ?_⟩⟩
  rw [Std.TreeMap.mem_iff_isSome_getElem?, BundleActivePackageStats.runs_iff.1 hx]
  rfl

/-- What is captured under a key are the states of an entry of the key. -/
theorem statesOf_flushDataInMem (keyed : ∀ i, Keyed (s.currentStats i).bundleStats) (x : Session)
    (k : String) : (∀ m, (s.flushDataInMem.1.statesOf x)[k]? = some m →
        ∃ i e, (s.currentStats i).bundleStats[k]? = some e ∧ e.statesOf x = m) ∧
      ((∃ i e, (s.currentStats i).bundleStats[k]? = some e ∧ (e.statesOf x).isEmpty = false) →
        AnyCaptured s.flushDataInMem.1 k x) := by
  obtain ⟨hsome, hpresent⟩ := Entries.getElem?_foldl_insertUnless
    (fun e : BundleActivePackageStats => getBundleUsageKey e.bundleName e.uid) (·.statesOf x)
    (fun e => (e.statesOf x).isEmpty) s.entries (ContinueStats.statesOf {} x) k
  unfold AnyCaptured
  rw [flushDataInMem_fst, statesOf_foldl_note]
  constructor
  · intro m hm
    rcases hsome m hm with hnone | ⟨e, he, hkey, -, hstates⟩
    · cases x <;> simp [ContinueStats.statesOf] at hnone
    · obtain ⟨i, k', hk'⟩ := mem_entries.1 he
      exact ⟨i, e, (keyed i k' e hk').symm.trans hkey ▸ hk', hstates⟩
  · rintro ⟨i, e, hk, hne⟩
    exact hpresent (.inr ⟨e, mem_entries.2 ⟨i, k, hk⟩, keyed i k e hk, hne⟩)

theorem anyCaptured_of_someKnown (keyed : ∀ i, Keyed (s.currentStats i).bundleStats) {n : String}
    {v : ℤ} (h : s.SomeKnown x n v) :
    AnyCaptured s.flushDataInMem.1 (getBundleUsageKey n v) x :=
  (statesOf_flushDataInMem keyed x _).2 h

/-- Captured is what runs. -/
theorem captured_iff (keyed : ∀ i, Keyed (s.currentStats i).bundleStats) (agree : s.SessionsAgree)
    (i : IntervalType) (k : String) (x : Session) :
    Captured s.flushDataInMem.1 k x ↔ (s.currentStats i).Runs k x := by
  obtain ⟨hsome, hpresent⟩ := statesOf_flushDataInMem keyed x k
  constructor
  · rintro ⟨m, hm, hx⟩
    obtain ⟨j, e, hk, rfl⟩ := hsome m hm
    rw [agree i j]
    exact ⟨e, hk, BundleActivePackageStats.runs_iff.2 hx⟩
  · intro hruns
    obtain ⟨e, hk, hx⟩ := hruns
    have hne : (e.statesOf x).isEmpty = false :=
      Std.TreeMap.isEmpty_eq_false_iff_exists_mem.2 ⟨x.name, by
        rw [Std.TreeMap.mem_iff_isSome_getElem?, BundleActivePackageStats.runs_iff.1 hx]
        rfl⟩
    obtain ⟨m, hm⟩ := Option.isSome_iff_exists.1 (hpresent ⟨i, e, hk, hne⟩)
    obtain ⟨j, e', hk', rfl⟩ := hsome m hm
    have hruns' : (s.currentStats j).Runs k x := agree i j ▸ ⟨e, hk, hx⟩
    obtain ⟨e'', hk'', hx'⟩ := hruns'
    rw [Option.some.inj (hk'.symm.trans hk'')] at hm
    exact ⟨_, hm, BundleActivePackageStats.runs_iff.1 hx'⟩

/-! ### What the capture leaves alone -/

/-- The name and the uid of an entry. -/
def ident (e : BundleActivePackageStats) : String × ℤ := (e.bundleName, e.uid)

/-- The sessions, the names of the entries and the uids stay. -/
structure Flushed (s s' : ServiceState) : Prop extends MemoryOnly s s' where
  runs : SameRuns s s'
  idents : ∀ i (k : String), ((s'.currentStats i).bundleStats[k]?).map ident =
    ((s.currentStats i).bundleStats[k]?).map ident
  uids : s'.packageContainUidMap = s.packageContainUidMap

theorem Flushed.refl (s : ServiceState) : Flushed s s :=
  ⟨.refl s, .refl s, fun _ _ => rfl, rfl⟩

theorem Flushed.trans (h : Flushed s s') (h' : Flushed s' s'') : Flushed s s'' :=
  ⟨h.toMemoryOnly.trans h'.toMemoryOnly, h.runs.trans h'.runs,
    fun i k => (h'.idents i k).trans (h.idents i k), h'.uids.trans h.uids⟩

theorem flushed_setStats (s : ServiceState) (i : IntervalType) {p : BundleActivePeriodStats}
    (h : MemoryOnly s (s.setStats i p)) (hp : p.bundleStats = (s.currentStats i).bundleStats) :
    Flushed s (s.setStats i p) := by
  refine ⟨h, sameRuns_setStats (BundleActivePeriodStats.runs_congr hp), fun j k => ?_, rfl⟩
  by_cases hj : j = i
  · subst hj
    simp [setStats, hp]
  · simp [setStats, hj]

theorem flushed_notifyStatsChanged (s : ServiceState) : Flushed s s.notifyStatsChanged := by
  refine ⟨memoryOnly_notifyStatsChanged s, sameRuns_notifyStatsChanged s, fun i k => ?_, ?_⟩
  · unfold notifyStatsChanged
    split_ifs <;> rfl
  · unfold notifyStatsChanged
    split_ifs
    · rfl
    · change (onStatsChanged s.toProcessState s.userId).packageContainUidMap = _
      unfold onStatsChanged
      split_ifs <;> rfl

/-- The end of a day reaches an entry that is there. -/
theorem flushed_updateStats (s : ServiceState) (i : IntervalType) {e : BundleActivePackageStats}
    (hk : (s.currentStats i).bundleStats[getBundleUsageKey e.bundleName e.uid]?.map ident =
      some (ident e)) (t : ℤ) :
    Flushed s (updateStats i e.bundleName "" t .endOfTheDay "" e.uid s) := by
  obtain ⟨e', hk', hident⟩ := Option.map_eq_some_iff.1 hk
  have hupdate : (s.currentStats i).update s.packageContainUidMap e.bundleName "" t .endOfTheDay ""
      e.uid = (({ s.currentStats i with
        bundleStats := (s.currentStats i).bundleStats.insert
          (getBundleUsageKey e.bundleName e.uid) (e'.update "" t .endOfTheDay "") } :
            BundleActivePeriodStats).extendEndTime t, s.packageContainUidMap) := by
    simp [BundleActivePeriodStats.update, BundleActivePeriodStats.getOrCreateUsageStats, hk',
      EventId.isBundleEvent]
  refine ⟨memoryOnly_updateStats .., fun j => ?_, fun j k => ?_, ?_⟩
  · by_cases hj : j = i
    · subst hj
      rw [runs_updateStats]
      exact Session.afterUpdate_eq_self (fun x => by cases x <;> simp [Session.Started])
        (fun x => by cases x <;> simp [Session.Ended]) _
    · rw [currentStats_updateStats_of_ne hj]
      rfl
  · by_cases hj : j = i
    · subst hj
      have hstats : ((updateStats j e.bundleName "" t .endOfTheDay "" e.uid s).currentStats
          j).bundleStats = (s.currentStats j).bundleStats.insert
            (getBundleUsageKey e.bundleName e.uid) (e'.update "" t .endOfTheDay "") := by
        simp only [updateStats, hupdate, setStats, Function.update_self]
        unfold BundleActivePeriodStats.extendEndTime
        split_ifs <;> rfl
      rw [hstats, Std.TreeMap.getElem?_insert]
      split_ifs with hkey
      · obtain rfl := Std.LawfulEqCmp.eq_of_compare hkey
        have hgrows := BundleActivePackageStats.grows_update e' "" t .endOfTheDay ""
        rw [hk', Option.map_some, Option.map_some, ident, ident, hgrows.bundleName, hgrows.uid]
      · rfl
    · rw [currentStats_updateStats_of_ne hj]
  · simp only [updateStats, hupdate]

theorem flushed_flushDataInMem (keyed : ∀ i, Keyed (s.currentStats i).bundleStats) :
    Flushed s s.flushDataInMem.2 := by
  have hentries : ∀ i (l : List BundleActivePackageStats) (cs : ContinueStats × ServiceState),
      Flushed s cs.2 → (∀ e ∈ l, ((s.currentStats i).bundleStats[getBundleUsageKey e.bundleName
        e.uid]?).map ident = some (ident e)) → Flushed s (l.foldl (flushEntry i) cs).2 := by
    intro i l
    induction l with
    | nil => exact fun _ h _ => h
    | cons e l ih =>
      intro cs h hl
      refine ih _ (h.trans ?_) fun e' he' => hl e' (List.mem_cons_of_mem _ he')
      exact (flushed_updateStats cs.2 i
        ((h.idents i _).trans (hl e (List.mem_cons_self ..))) _).trans
        (flushed_notifyStatsChanged _)
  have hloop : ∀ (l : List IntervalType) (cs : ContinueStats × ServiceState), Flushed s cs.2 →
      Flushed s (l.foldl flushDataInMemOf cs).2 := by
    intro l
    induction l with
    | nil => exact fun _ h => h
    | cons i l ih =>
      intro cs h
      have hl := hentries i ((cs.2.currentStats i).bundleStats.toList.map Prod.snd) cs h
        fun e he => by
          obtain ⟨⟨k, e'⟩, hmem, rfl⟩ := List.mem_map.1 he
          have hk := Std.TreeMap.mem_toList_iff_getElem?_eq_some.1 hmem
          have hold := h.idents i k
          rw [hk, Option.map_some] at hold
          obtain ⟨e₀, hk₀, hident⟩ := Option.map_eq_some_iff.1 hold.symm
          have hkey : getBundleUsageKey e'.bundleName e'.uid = k := by
            obtain ⟨hn, hu⟩ := Prod.mk.inj hident
            rw [← hn, ← hu]
            exact keyed i k e₀ hk₀
          rw [hkey, hk₀, Option.map_some, hident]
      exact ih _ (hl.trans (flushed_setStats _ i (memoryOnly_setStats _ i _ rfl rfl le_rfl) rfl))
  exact hloop IntervalType.all ({}, s) (.refl s)

/-! ### The replay -/

def SameUids (s s' : ServiceState) : Prop :=
  ∀ n v, v ∈ getPackageUidSet s'.packageContainUidMap n ↔
    v ∈ getPackageUidSet s.packageContainUidMap n

/-- A step that starts some sessions and adds no uid. -/
structure Starts (S : IntervalType → String → Session → Prop) (s s' : ServiceState) : Prop where
  runs : ∀ i k x, (s'.currentStats i).Runs k x ↔ S i k x ∨ (s.currentStats i).Runs k x
  uids : SameUids s s'

theorem Starts.refl (s : ServiceState) : Starts (fun _ _ _ => False) s s :=
  ⟨fun _ _ _ => (false_or _).symm ▸ .rfl, fun _ _ => .rfl⟩

theorem Starts.trans {S S' : IntervalType → String → Session → Prop} (h : Starts S s s')
    (h' : Starts S' s' s'') : Starts (fun i k x => S i k x ∨ S' i k x) s s'' := by
  refine ⟨fun i k x => ?_, fun n v => (h'.uids n v).trans (h.uids n v)⟩
  rw [h'.runs, h.runs]
  tauto

theorem Starts.congr {S S' : IntervalType → String → Session → Prop} (h : Starts S s s')
    (hS : ∀ i k x, S i k x ↔ S' i k x) : Starts S' s s' :=
  ⟨fun i k x => (h.runs i k x).trans (or_congr_left (hS i k x)), h.uids⟩

/-- A loop starts what its rounds start, each from any state with the same uids. -/
theorem Starts.foldl {α : Type} {f : ServiceState → α → ServiceState}
    {S : α → IntervalType → String → Session → Prop} (l : List α)
    (h : ∀ a ∈ l, ∀ s₁, SameUids s s₁ → Starts (S a) s₁ (f s₁ a)) :
    Starts (fun i k x => ∃ a ∈ l, S a i k x) s (l.foldl f s) := by
  have hloop : ∀ l' ⊆ l, ∀ s₁, SameUids s s₁ →
      Starts (fun i k x => ∃ a ∈ l', S a i k x) s₁ (l'.foldl f s₁) := by
    intro l'
    induction l' with
    | nil => exact fun _ s₁ _ => (Starts.refl s₁).congr fun _ _ _ => by simp
    | cons a l' ih =>
      intro hl s₁ hs₁
      have hfirst := h a (hl (List.mem_cons_self ..)) s₁ hs₁
      refine (hfirst.trans (ih (fun b hb => hl (List.mem_cons_of_mem _ hb)) _ fun n v =>
        (hfirst.uids n v).trans (hs₁ n v))).congr fun i k x => ?_
      simp [List.mem_cons, or_and_right, exists_or]
  exact hloop l (List.Subset.refl l) s fun _ _ => .rfl

/-- The update that starts a session, of a uid that is known for the name. -/
theorem starts_updateStats (i : IntervalType) (b n : String) (t : ℤ) {e : EventId} (a : String)
    {uid : ℤ} (hs : ∀ y, Session.Started e n a y ↔ y = x) (he : ∀ y, ¬ Session.Ended e n a y)
    (huid : uid ∈ getPackageUidSet s.packageContainUidMap b) :
    Starts (fun j k y => j = i ∧ k = getBundleUsageKey b uid ∧ y = x) s
      (updateStats i b n t e a uid s) := by
  refine ⟨fun j k y => ?_, fun m v => ?_⟩
  · by_cases hj : j = i
    · subst hj
      simp [runs_updateStats, afterUpdate, hs, he]
    · simp [currentStats_updateStats_of_ne hj, hj]
  · have huids : UidsFrom (fun m v => v ∈ getPackageUidSet s.packageContainUidMap m) s
        (updateStats i b n t e a uid s) := uidsFrom_updateStats i b n t e a uid s huid
    exact ⟨fun hv => (huids.from_fresh m v hv).elim id id, huids.kept m v⟩

/-- The replay over the uids of a name gets to a uid. -/
def Reached (s : ServiceState) (c : ContinueStats) (n : String) (x : Session) (u : ℤ) : Prop :=
  u ∈ getPackageUidSet s.packageContainUidMap n ∧
    ∀ v ∈ getPackageUidSet s.packageContainUidMap n, v ≤ u →
      AnyCaptured c (getBundleUsageKey n v) x

theorem reached_congr (h : SameUids s s') {n : String} {u : ℤ} :
    Reached s' c n x u ↔ Reached s c n x u := by
  simp only [Reached, h n]

/-- The loop over the uids of one name: it starts what was captured of the uids before the first without. -/
theorem starts_foldl_uids (i : IntervalType) (n : String) (c : ContinueStats)
    {states : Std.TreeMap String (Std.TreeMap String EventId)}
    {start : ℤ → ServiceState → String × EventId → ServiceState} {Kind : Session → Prop}
    (kind : ∀ y, Kind y → c.statesOf y = states)
    (round : ∀ u ∈ getPackageUidSet s.packageContainUidMap n, ∀ m,
      states[getBundleUsageKey n u]? = some m → ∀ p ∈ m.toList, ∀ s₁, SameUids s s₁ →
        Starts (fun j k y => j = i ∧ k = getBundleUsageKey n u ∧ Kind y ∧ (y.name, y.running) = p) s₁
          (start u s₁ p)) :
    Starts (fun j k y => j = i ∧ Kind y ∧ ∃ u, Reached s c n y u ∧ k = getBundleUsageKey n u ∧
        Captured c k y) s
      (((getPackageUidSet s.packageContainUidMap n).toList.takeWhile fun u =>
        (states[getBundleUsageKey n u]?).isSome).foldl (fun s u =>
          ((states[getBundleUsageKey n u]?).getD {}).toList.foldl (start u) s) s) := by
  have hsorted : (getPackageUidSet s.packageContainUidMap n).toList.Pairwise (· < ·) :=
    Std.TreeSet.ordered_toList.imp fun h => compare_lt_iff_lt.1 h
  have hmem : ∀ u, u ∈ (getPackageUidSet s.packageContainUidMap n).toList.takeWhile
        (fun u => (states[getBundleUsageKey n u]?).isSome) ↔
      u ∈ getPackageUidSet s.packageContainUidMap n ∧
        ∀ v ∈ getPackageUidSet s.packageContainUidMap n, v ≤ u →
          (states[getBundleUsageKey n v]?).isSome = true := by
    intro u
    simp only [Bisection.mem_takeWhile_iff hsorted, Std.TreeSet.mem_toList]
  refine (Starts.foldl (S := fun u j k y => j = i ∧ k = getBundleUsageKey n u ∧ Kind y ∧
    Captured c k y) _ fun u hu s₁ hs₁ => ?_).congr fun j k y => ?_
  · obtain ⟨hu, hall⟩ := (hmem u).1 hu
    obtain ⟨m, hm⟩ := Option.isSome_iff_exists.1 (hall u hu le_rfl)
    rw [hm, Option.getD_some]
    refine (Starts.foldl (S := fun p j k y => j = i ∧ k = getBundleUsageKey n u ∧ Kind y ∧
      (y.name, y.running) = p) m.toList fun p hp s₂ hs₂ =>
        round u hu m hm p hp s₂ fun n v => (hs₂ n v).trans (hs₁ n v)).congr fun j k y => ?_
    constructor
    · rintro ⟨p, hp, rfl, rfl, hy, rfl⟩
      refine ⟨rfl, rfl, hy, m, kind y hy ▸ hm, ?_⟩
      exact Std.TreeMap.mem_toList_iff_getElem?_eq_some.1 hp
    · rintro ⟨rfl, rfl, hy, m', hm', hx⟩
      rw [kind y hy, hm] at hm'
      obtain rfl := Option.some.inj hm'
      exact ⟨_, Std.TreeMap.mem_toList_iff_getElem?_eq_some.2 hx, rfl, rfl, hy, rfl⟩
  · simp only [hmem, Reached, AnyCaptured]
    constructor
    · rintro ⟨u, ⟨hu, hall⟩, rfl, rfl, hy, hx⟩
      rw [kind y hy]
      exact ⟨rfl, hy, u, ⟨hu, hall⟩, rfl, hx⟩
    · rintro ⟨rfl, hy, u, ⟨hu, hall⟩, rfl, hx⟩
      rw [kind y hy] at hall
      exact ⟨u, ⟨hu, hall⟩, rfl, rfl, hy, hx⟩

/-- The capture holds the states of sessions only. -/
structure StatesCaptured (c : ContinueStats) : Prop where
  abilities : ∀ (k : String) m, c.continueAbilities[k]? = some m → ∀ p ∈ m.toList,
    p.2 = .abilityForeground ∨ p.2 = .abilityBackground
  services : ∀ (k : String) m, c.continueServices[k]? = some m → ∀ p ∈ m.toList,
    p.2 = .longTimeTaskStartted

theorem statesCaptured_flushDataInMem (keyed : ∀ i, Keyed (s.currentStats i).bundleStats)
    (known : s.Holds fun _ e => e.StatesKnown) : StatesCaptured s.flushDataInMem.1 := by
  constructor <;> intro k m hm p hp
  · obtain ⟨i, e, hk, rfl⟩ := (statesOf_flushDataInMem keyed (.ability "") k).1 m hm
    exact (known.entries i k e hk).abilities p.1 p.2 (Std.TreeMap.mem_toList_iff_getElem?_eq_some.1 hp)
  · obtain ⟨i, e, hk, rfl⟩ := (statesOf_flushDataInMem keyed (.task "") k).1 m hm
    exact (known.entries i k e hk).tasks p.1 p.2 (Std.TreeMap.mem_toList_iff_getElem?_eq_some.1 hp)

theorem continueAbilitiesOfUids_eq (i : IntervalType) (t : ℤ) (c : ContinueStats) (n : String)
    (uids : List ℤ) (s : ServiceState) :
    continueAbilitiesOfUids i t c n uids s =
      (uids.takeWhile fun u => (c.continueAbilities[getBundleUsageKey n u]?).isSome).foldl
        (fun s u => ((c.continueAbilities[getBundleUsageKey n u]?).getD {}).toList.foldl
          (fun s ability => if ability.2 = .abilityBackground then s
            else updateStats i n "" t ability.2 ability.1 u s) s) s := by
  induction uids generalizing s with
  | nil => rfl
  | cons u uids ih =>
    unfold continueAbilitiesOfUids
    cases hm : c.continueAbilities[getBundleUsageKey n u]? with
    | none => rw [List.takeWhile_cons_of_neg (by simp [hm]), List.foldl_nil]
    | some m =>
      rw [List.takeWhile_cons_of_pos (by simp [hm]), List.foldl_cons, hm, Option.getD_some]
      exact ih _

theorem continueServicesOfUids_eq (i : IntervalType) (t : ℤ) (c : ContinueStats) (n : String)
    (uids : List ℤ) (s : ServiceState) :
    continueServicesOfUids i t c n uids s =
      (uids.takeWhile fun u => (c.continueServices[getBundleUsageKey n u]?).isSome).foldl
        (fun s u => ((c.continueServices[getBundleUsageKey n u]?).getD {}).toList.foldl
          (fun s service => updateStats i n service.1 t service.2 "" u s) s) s := by
  induction uids generalizing s with
  | nil => rfl
  | cons u uids ih =>
    unfold continueServicesOfUids
    cases hm : c.continueServices[getBundleUsageKey n u]? with
    | none => rw [List.takeWhile_cons_of_neg (by simp [hm]), List.foldl_nil]
    | some m =>
      rw [List.takeWhile_cons_of_pos (by simp [hm]), List.foldl_cons, hm, Option.getD_some]
      exact ih _

theorem starts_updateContinueAbilitiesMemory (captured : StatesCaptured c) (t : ℤ) (n : String)
    (i : IntervalType) (s : ServiceState) :
    Starts (fun j k y => j = i ∧ (∃ a, y = .ability a) ∧ ∃ u, Reached s c n y u ∧
        k = getBundleUsageKey n u ∧ Captured c k y) s
      (updateContinueAbilitiesMemory t c n i s) := by
  unfold updateContinueAbilitiesMemory
  rw [continueAbilitiesOfUids_eq]
  refine starts_foldl_uids i n c (fun y ⟨a, hy⟩ => hy ▸ rfl) fun u hu m hm p hp s₁ hs₁ => ?_
  obtain ⟨a, e⟩ := p
  rcases captured.abilities _ m hm (a, e) hp with he | he
  · obtain rfl : e = .abilityForeground := he
    rw [if_neg (show EventId.abilityForeground ≠ .abilityBackground by decide)]
    refine (starts_updateStats i n "" t a (x := .ability a) (fun y => ?_) (fun y => ?_)
      ((hs₁ n u).2 hu)).congr fun j k y => ?_
    · cases y <;> simp [Session.Started]
    · cases y <;> simp [Session.Ended]
    · cases y <;> simp [Session.name, Session.running]
  · obtain rfl : e = .abilityBackground := he
    rw [if_pos rfl]
    refine (Starts.refl s₁).congr fun j k y => ?_
    cases y <;> simp [Session.name, Session.running]

theorem starts_updateContinueServicesMemory (captured : StatesCaptured c) (t : ℤ) (n : String)
    (i : IntervalType) (s : ServiceState) :
    Starts (fun j k y => j = i ∧ (∃ m, y = .task m) ∧ ∃ u, Reached s c n y u ∧
        k = getBundleUsageKey n u ∧ Captured c k y) s
      (updateContinueServicesMemory t c n i s) := by
  unfold updateContinueServicesMemory
  rw [continueServicesOfUids_eq]
  refine starts_foldl_uids i n c (fun y ⟨a, hy⟩ => hy ▸ rfl) fun u hu m hm p hp s₁ hs₁ => ?_
  obtain ⟨a, e⟩ := p
  obtain rfl : e = .longTimeTaskStartted := captured.services _ m hm (a, e) hp
  refine (starts_updateStats i n a t "" (x := .task a) (fun y => ?_) (fun y => ?_)
    ((hs₁ n u).2 hu)).congr fun j k y => ?_
  · cases y <;> simp [Session.Started]
  · cases y <;> simp [Session.Ended]
  · cases y <;> simp [Session.name, Session.running]

/-- What the replay of a bundle starts in every period. -/
def ReplayedOf (s : ServiceState) (c : ContinueStats) (n : String) (k : String) (y : Session) :
    Prop :=
  ∃ u, Reached s c n y u ∧ k = getBundleUsageKey n u ∧ Captured c k y

theorem replayedOf_congr (h : SameUids s s') {n : String} :
    ReplayedOf s' c n k x ↔ ReplayedOf s c n k x := by
  simp only [ReplayedOf, reached_congr h]

theorem starts_continueBundle (captured : StatesCaptured c) (s : ServiceState) (n : String) :
    Starts (fun _ k y => ReplayedOf s c n k y) s (continueBundle c s n) := by
  unfold continueBundle
  refine (Starts.foldl (S := fun i j k y => j = i ∧ ReplayedOf s c n k y) IntervalType.all
    fun i _ s₁ hs₁ => ?_).congr fun j k y => ?_
  · have habilities := starts_updateContinueAbilitiesMemory captured
      (s.currentStats .daily).beginTime n i s₁
    refine (habilities.trans (starts_updateContinueServicesMemory captured _ n i _)).congr
      fun j k y => ?_
    have hs₂ : ReplayedOf (updateContinueAbilitiesMemory (s.currentStats .daily).beginTime c n i s₁)
        c n k y ↔ ReplayedOf s c n k y :=
      (replayedOf_congr habilities.uids).trans (replayedOf_congr hs₁)
    have hkind : (∃ a, y = .ability a) ∨ ∃ m, y = .task m := by
      cases y with
      | ability a => exact .inl ⟨a, rfl⟩
      | task m => exact .inr ⟨m, rfl⟩
    change j = i ∧ (∃ a, y = .ability a) ∧ ReplayedOf s₁ c n k y ∨
      j = i ∧ (∃ m, y = .task m) ∧ ReplayedOf _ c n k y ↔ _
    rw [replayedOf_congr hs₁, hs₂]
    tauto
  · simp [DatabaseState.IntervalType.mem_all]

/-- The replay of a rollover. -/
theorem starts_continueBundles (captured : StatesCaptured c) (s : ServiceState) :
    Starts (fun _ k y => ∃ n ∈ c.continueBundles, ReplayedOf s c n k y) s
      (c.continueBundles.toList.foldl (continueBundle c) s) := by
  refine (Starts.foldl (S := fun n _ k y => ReplayedOf s c n k y) c.continueBundles.toList
    fun n _ s₁ hs₁ => ?_).congr fun j k y => ?_
  · exact (starts_continueBundle captured s₁ n).congr fun _ k y => replayedOf_congr hs₁
  · simp only [Std.TreeSet.mem_toList]

end ServiceState
end DeviceUsageStats
