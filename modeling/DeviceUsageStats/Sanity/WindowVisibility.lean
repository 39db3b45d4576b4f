import Mathlib
import DeviceUsageStats.Lib.Entries
import DeviceUsageStats.Spec.WindowVisibility

/-! What the window map says is visible, under the ability keys. A call changes it for the uids it names
only, and then updates the bundles it names one after the other: the first update of a bundle does it,
the others find it done. -/

namespace DeviceUsageStats

/-! ### Ability keys -/

theorem bar_not_mem_toString (uid : ℤ) : '|' ∉ (toString uid).toList := by
  have hnat : ∀ n : ℕ, '|' ∉ n.repr.toList := fun n h => by
    rw [Nat.toList_repr] at h
    exact absurd (Nat.isDigit_of_mem_toDigits (by decide) (by decide) h) (by decide)
  cases uid with
  | ofNat n => exact hnat n
  | negSucc n =>
    change '|' ∉ ("-" ++ (n + 1).repr).toList
    rw [String.toList_append, List.mem_append]
    rintro (h | h)
    · exact absurd h (by decide)
    · exact hnat _ h

/-- The uid ends at the first bar. -/
theorem generateAbilityKey_uid {uid uid' : ℤ} {a a' n n' : String}
    (h : generateAbilityKey uid a n = generateAbilityKey uid' a' n') : uid = uid' := by
  have hlist := congrArg String.toList h
  unfold generateAbilityKey at hlist
  simp only [String.toList_append, List.append_assoc] at hlist
  have hdigits : ∀ (uid : ℤ) (rest : List Char),
      ((toString uid).toList ++ ("|".toList ++ rest)).takeWhile (· ≠ '|') =
        (toString uid).toList := fun uid rest => by
    rw [List.takeWhile_append_of_pos fun x hx => by
      simpa using fun heq : x = '|' => bar_not_mem_toString uid (heq ▸ hx)]
    simp
  have huid := congrArg (List.takeWhile (· ≠ '|')) hlist
  rw [hdigits, hdigits] at huid
  exact Int.repr_injective (String.toList_injective huid)

/-! ### Visible windows -/

/-- Which windows are visible, by ability key and window id. -/
abbrev WindowView := String → ℕ → Bool

/-- Some window of the uid is visible. -/
def UidShows (v : WindowView) (uid : ℤ) : Prop :=
  ∃ abilityName moduleName id, v (generateAbilityKey uid abilityName moduleName) id = true

def showWindow (v : WindowView) (windowData : WindowInfoData) : WindowView := fun key id =>
  if key = windowData.abilityKey ∧ id = windowData.windowId then windowData.isVisible else v key id

def hideAbility (v : WindowView) (abilityKey : String) : WindowView := fun key id =>
  if key = abilityKey then false else v key id

theorem uidShows_showWindow_of_ne {v : WindowView} {d : WindowInfoData} {uid : ℤ}
    (h : d.uid ≠ uid) : UidShows (showWindow v d) uid ↔ UidShows v uid := by
  have hkey : ∀ a n, generateAbilityKey uid a n ≠ d.abilityKey := fun a n heq =>
    h (generateAbilityKey_uid heq).symm
  simp [UidShows, showWindow, hkey]

theorem uidShows_foldl_showWindow_of_ne {ds : List WindowInfoData} {v : WindowView} {uid : ℤ}
    (h : ∀ d ∈ ds, d.uid ≠ uid) : UidShows (ds.foldl showWindow v) uid ↔ UidShows v uid := by
  induction ds generalizing v with
  | nil => rfl
  | cons d ds ih =>
    rw [List.foldl_cons, ih fun d' hd' => h d' (List.mem_cons_of_mem _ hd')]
    exact uidShows_showWindow_of_ne (h d List.mem_cons_self)

theorem uidShows_hideAbility_of_ne {v : WindowView} {uid uid' : ℤ} {a n : String}
    (h : uid' ≠ uid) : UidShows (hideAbility v (generateAbilityKey uid' a n)) uid ↔
      UidShows v uid := by
  have hkey : ∀ a' n', generateAbilityKey uid a' n' ≠ generateAbilityKey uid' a n :=
    fun a' n' heq => h (generateAbilityKey_uid heq).symm
  simp [UidShows, hideAbility, hkey]

/-- The account of the uid is found and the report handler is there. -/
def ReportContext.Delivers (c : ReportContext) (uid : ℤ) : Prop :=
  c.hasReportHandler = true ∧ ∃ userId ≠ -1, c.getUserId uid = some userId

/-! ### What a call names -/

/-- The update that follows for a window. -/
structure AppUpdate where
  bundleName : String
  abilityName : String
  moduleName : String
  uid : ℤ

namespace WindowOp

/-- The windows of a change that are not left out. -/
def windowDataList (windowVisibilityInfo : List (Option WindowInfoData)) : List WindowInfoData :=
  windowVisibilityInfo.reduceOption.filter (!·.skipped)

def updates : WindowOp → List AppUpdate
  | .changed windowVisibilityInfo => (windowDataList windowVisibilityInfo).map fun d =>
    ⟨d.bundleName, d.abilityName, d.moduleName, d.uid⟩
  | .clear bundleName abilityName moduleName uid => [⟨bundleName, abilityName, moduleName, uid⟩]

/-- The windows that are visible after a call: each window is as the call says last. -/
def showsAfter (v : WindowView) : WindowOp → WindowView
  | .changed windowVisibilityInfo => (windowDataList windowVisibilityInfo).foldl showWindow v
  | .clear _ abilityName moduleName uid =>
    hideAbility v (generateAbilityKey uid abilityName moduleName)

/-- Every uid is named with its bundle name. -/
def NamesBundles (nameOf : ℤ → String) (op : WindowOp) : Prop :=
  ∀ update ∈ op.updates, update.bundleName = nameOf update.uid

theorem uidShows_showsAfter {op : WindowOp} {uid : ℤ} (h : ∀ update ∈ op.updates, update.uid ≠ uid)
    (v : WindowView) : UidShows (op.showsAfter v) uid ↔ UidShows v uid := by
  cases op with
  | changed infos =>
    exact uidShows_foldl_showWindow_of_ne fun d hd => h _ (List.mem_map_of_mem hd)
  | clear b a n uid' => exact uidShows_hideAbility_of_ne (h _ (List.mem_singleton_self _))

end WindowOp

namespace BundleActiveWindowVisibilityManager

variable {m : BundleActiveWindowVisibilityManager} {c : ReportContext} {nameOf : ℤ → String}

def shows (m : BundleActiveWindowVisibilityManager) : WindowView := fun key id =>
  ((m.abilityWindowMap[key]?).bind (·.windowVisibilityMap[id]?)).getD false

/-- Every recorded ability is under its own key and has the bundle name of its uid. -/
def WindowsNamed (nameOf : ℤ → String) (m : BundleActiveWindowVisibilityManager) : Prop :=
  ∀ key w, m.abilityWindowMap[key]? = some w →
    generateAbilityKey w.uid w.abilityName w.moduleName = key ∧ w.bundleName = nameOf w.uid

/-- Some window recorded for the bundle is visible. -/
def HasVisibleWindow (m : BundleActiveWindowVisibilityManager) (bundleName : String) : Prop :=
  ∃ (key : String) (w : AbilityWindowInfo) (id : ℕ), m.abilityWindowMap[key]? = some w ∧
    w.bundleName = bundleName ∧ w.windowVisibilityMap[id]? = some true

theorem isAllAbilitiesInvisible_iff (m : BundleActiveWindowVisibilityManager) (b : String) :
    m.isAllAbilitiesInvisible b = false ↔ m.HasVisibleWindow b := by
  have hall : m.isAllAbilitiesInvisible b = true ↔ ¬ m.HasVisibleWindow b := by
    simp only [isAllAbilitiesInvisible, AbilityWindowInfo.areAllWindowsInvisible, List.all_eq_true,
      Bool.or_eq_true, Bool.not_eq_true', beq_eq_false_iff_ne, Prod.forall, HasVisibleWindow,
      Std.TreeMap.mem_toList_iff_getElem?_eq_some, not_exists, not_and]
    constructor
    · intro h key w id hw hb hid
      rcases h key w hw with hne | hinvisible
      · exact hne hb
      · exact absurd (hinvisible id true hid) (by decide)
    · intro h key w hw
      refine or_iff_not_imp_left.2 fun hb id visible hid => ?_
      cases visible with
      | false => rfl
      | true => exact absurd hid (h key w id hw (not_not.1 hb))
  rw [← not_iff_not, ← hall, Bool.not_eq_false]

theorem shows_eq_true {key : String} {id : ℕ} : m.shows key id = true ↔
    ∃ w, m.abilityWindowMap[key]? = some w ∧ w.windowVisibilityMap[id]? = some true := by
  unfold shows
  cases m.abilityWindowMap[key]? with
  | none => simp
  | some w => cases h : w.windowVisibilityMap[id]? <;> simp [h]

theorem hasVisibleWindow_iff (named : WindowsNamed nameOf m) (b : String) :
    m.HasVisibleWindow b ↔ ∃ uid, nameOf uid = b ∧ UidShows m.shows uid := by
  constructor
  · rintro ⟨key, w, id, hw, rfl, hid⟩
    obtain ⟨rfl, hb⟩ := named key w hw
    exact ⟨w.uid, hb.symm, w.abilityName, w.moduleName, id, shows_eq_true.2 ⟨w, hw, hid⟩⟩
  · rintro ⟨uid, rfl, a, n, id, hshows⟩
    obtain ⟨w, hw, hid⟩ := shows_eq_true.1 hshows
    obtain ⟨hkey, hb⟩ := named _ w hw
    exact ⟨_, w, id, hw, by rw [hb, generateAbilityKey_uid hkey], hid⟩

/-! ### The recording -/

/-- Only the window map changes. -/
structure Records (v : WindowView) (nameOf : ℤ → String)
    (m m' : BundleActiveWindowVisibilityManager) : Prop where
  app : m'.appVisibilityMap = m.appVisibilityMap
  reports : m'.reports = m.reports
  named : WindowsNamed nameOf m'
  view : m'.shows = v

theorem records_handleNewAbilityWindow (named : WindowsNamed nameOf m) {d : WindowInfoData}
    (hd : d.bundleName = nameOf d.uid) (hnew : m.abilityWindowMap[d.abilityKey]? = none) :
    Records (showWindow m.shows d) nameOf m (m.handleNewAbilityWindow d.abilityKey d) where
  app := rfl
  reports := rfl
  named key w hw := by
    unfold handleNewAbilityWindow at hw
    simp only [Std.TreeMap.getElem?_insert, Std.compare_eq_iff_eq] at hw
    split_ifs at hw with hkey
    · cases hw
      exact ⟨hkey, hd⟩
    · exact named key w hw
  view := by
    funext key id
    simp only [shows, handleNewAbilityWindow, showWindow, Std.TreeMap.getElem?_insert,
      Std.compare_eq_iff_eq]
    by_cases hkey : d.abilityKey = key
    · rw [if_pos hkey, ← hkey, hnew]
      simp only [Option.bind_some, Std.TreeMap.getElem?_insert, Std.compare_eq_iff_eq, true_and,
        eq_comm (a := id)]
      split_ifs <;> rfl
    · rw [if_neg hkey, if_neg fun h => hkey h.1.symm]

theorem records_updateExistingAbilityWindow (named : WindowsNamed nameOf m) {d : WindowInfoData}
    {w : AbilityWindowInfo} (hw : m.abilityWindowMap[d.abilityKey]? = some w) :
    Records (showWindow m.shows d) nameOf m
      (m.updateExistingAbilityWindow d.abilityKey w d) := by
  obtain ⟨hkey, hb⟩ := named _ w hw
  have hwindows : ∀ id, (if d.isVisible then w.windowVisibilityMap.insert d.windowId d.isVisible
      else w.windowVisibilityMap.erase d.windowId)[id]?.getD false =
        if id = d.windowId then d.isVisible else w.windowVisibilityMap[id]?.getD false := by
    intro id
    cases d.isVisible with
    | true =>
      simp only [if_true, Std.TreeMap.getElem?_insert, Std.compare_eq_iff_eq, eq_comm (a := id)]
      split_ifs <;> rfl
    | false =>
      simp only [Bool.false_eq_true, if_false, Std.TreeMap.getElem?_erase, Std.compare_eq_iff_eq,
        eq_comm (a := id)]
      split_ifs <;> rfl
  unfold updateExistingAbilityWindow
  generalize (if d.isVisible then w.windowVisibilityMap.insert d.windowId d.isVisible
    else w.windowVisibilityMap.erase d.windowId) = windows at hwindows ⊢
  simp only [hkey]
  generalize hm' : ite (windows.isEmpty = true) _ _ = m'
  have hmap : ∀ key, m'.abilityWindowMap[key]? = if d.abilityKey = key then
      (if windows.isEmpty then none else some { w with windowVisibilityMap := windows })
      else m.abilityWindowMap[key]? := by
    intro key
    rw [← hm']
    cases windows.isEmpty with
    | true =>
      simp only [if_true, Std.TreeMap.getElem?_erase, Std.TreeMap.getElem?_insert,
        Std.compare_eq_iff_eq]
      split_ifs <;> rfl
    | false =>
      simp only [Bool.false_eq_true, if_false, Std.TreeMap.getElem?_insert, Std.compare_eq_iff_eq]
  have happ : m'.appVisibilityMap = m.appVisibilityMap ∧ m'.reports = m.reports := by
    rw [← hm']
    split_ifs <;> exact ⟨rfl, rfl⟩
  refine ⟨happ.1, happ.2, fun key w' h => ?_, funext₂ fun key id => ?_⟩
  · rw [hmap] at h
    split_ifs at h with hd hempty
    · cases h
      exact ⟨hkey.trans hd, hb⟩
    · exact named key w' h
  · unfold shows showWindow
    rw [hmap]
    by_cases hd : d.abilityKey = key
    · subst hd
      simp only [if_true, true_and, hw, Option.bind_some]
      rw [← hwindows id]
      split_ifs with hempty
      · rw [Std.TreeMap.getElem?_of_isEmpty hempty]
        rfl
      · rfl
    · rw [if_neg hd, if_neg fun h => hd h.1.symm]

theorem records_recordWindow (named : WindowsNamed nameOf m) {d : WindowInfoData}
    (hd : d.bundleName = nameOf d.uid) :
    Records (showWindow m.shows d) nameOf m (m.recordWindow d) := by
  unfold recordWindow
  cases hw : m.abilityWindowMap[d.abilityKey]? with
  | none => exact records_handleNewAbilityWindow named hd hw
  | some w => exact records_updateExistingAbilityWindow named hw

theorem records_foldl_recordWindow (named : WindowsNamed nameOf m) {ds : List WindowInfoData}
    (hds : ∀ d ∈ ds, d.bundleName = nameOf d.uid) :
    Records (ds.foldl showWindow m.shows) nameOf m (ds.foldl recordWindow m) := by
  induction ds generalizing m with
  | nil => exact ⟨rfl, rfl, named, rfl⟩
  | cons d ds ih =>
    have h := records_recordWindow named (hds d List.mem_cons_self)
    have h' := ih h.named fun d' hd' => hds d' (List.mem_cons_of_mem _ hd')
    exact ⟨h'.app.trans h.app, h'.reports.trans h.reports, h'.named,
      h'.view.trans (by rw [h.view, List.foldl_cons])⟩

theorem records_erase (named : WindowsNamed nameOf m) (key : String) :
    Records (hideAbility m.shows key) nameOf m
      { m with abilityWindowMap := m.abilityWindowMap.erase key } where
  app := rfl
  reports := rfl
  named key' w hw := by
    simp only [Std.TreeMap.getElem?_erase] at hw
    split_ifs at hw
    exact named key' w hw
  view := by
    funext key' id
    simp only [shows, hideAbility, Std.TreeMap.getElem?_erase, Std.compare_eq_iff_eq,
      eq_comm (a := key')]
    split_ifs <;> rfl

/-- The state of a call before the bundles are updated. -/
def recorded (m : BundleActiveWindowVisibilityManager) :
    WindowOp → BundleActiveWindowVisibilityManager
  | .changed windowVisibilityInfo =>
    (WindowOp.windowDataList windowVisibilityInfo).foldl recordWindow m
  | .clear _ abilityName moduleName uid =>
    { m with
      abilityWindowMap := m.abilityWindowMap.erase (generateAbilityKey uid abilityName moduleName) }

theorem records_recorded (named : WindowsNamed nameOf m) {op : WindowOp}
    (names : op.NamesBundles nameOf) :
    Records (op.showsAfter m.shows) nameOf m (m.recorded op) := by
  cases op with
  | changed infos =>
    exact records_foldl_recordWindow named fun d hd => names _ (List.mem_map_of_mem hd)
  | clear b a n uid => exact records_erase named _

/-! ### The updates -/

/-- Whether the bundle is marked visible. -/
def marked (m : BundleActiveWindowVisibilityManager) (bundleName : String) : Bool :=
  (m.appVisibilityMap[bundleName]?).getD false

theorem marked_iff (b : String) : m.marked b = true ↔ m.appVisibilityMap[b]? = some true := by
  unfold marked
  cases m.appVisibilityMap[b]? <;> simp

/-- What was reported for a bundle: the uid and whether it came to the foreground or left it. -/
def reportsOf (m : BundleActiveWindowVisibilityManager) (bundleName : String) :
    List (ℤ × EventId) :=
  (m.reports.filter (·.bundleName = bundleName)).map fun r => (r.event.uid, r.event.eventId)

def appEvent (toForeground : Bool) : EventId :=
  if toForeground then .abilityForeground else .abilityBackground

def update (c : ReportContext) (m : BundleActiveWindowVisibilityManager) (n : AppUpdate) :
    BundleActiveWindowVisibilityManager :=
  m.updateAppVisibility c n.bundleName n.abilityName n.moduleName n.uid

theorem apply_eq (m : BundleActiveWindowVisibilityManager) (op : WindowOp) :
    m.apply c op = op.updates.foldl (update c) (m.recorded op) := by
  cases op with
  | changed infos =>
    rw [WindowOp.updates, List.foldl_map]
    rfl
  | clear b a n uid => rfl

/-- The report of a bundle that an update makes, if the mark and the windows differ. -/
def change (m : BundleActiveWindowVisibilityManager) (n : AppUpdate) : List (ℤ × EventId) :=
  if m.marked n.bundleName = !m.isAllAbilitiesInvisible n.bundleName then []
  else [(n.uid, appEvent (!m.isAllAbilitiesInvisible n.bundleName))]

/-- What a sequence of updates does: the windows stay, the marks of the named bundles follow them, and
the first update of a bundle reports the change. -/
structure Updates (ns : List AppUpdate) (m m' : BundleActiveWindowVisibilityManager) : Prop where
  windows : m'.abilityWindowMap = m.abilityWindowMap
  marks : ∀ b, m'.marked b =
    if b ∈ ns.map AppUpdate.bundleName then !m.isAllAbilitiesInvisible b else m.marked b
  reported : ∀ b, m'.reportsOf b =
    m.reportsOf b ++ ((ns.find? (·.bundleName = b)).map m.change).getD []

theorem marked_updateAppVisibility (b : String) (n : AppUpdate) :
    (m.update c n).marked b =
      if b = n.bundleName then !m.isAllAbilitiesInvisible b else m.marked b := by
  have hreport : ∀ (m : BundleActiveWindowVisibilityManager) (b' a mo : String) (uid : ℤ) fg,
      (m.reportAppStateChanged c b' a mo uid fg).appVisibilityMap = m.appVisibilityMap := by
    intro m b' a mo uid fg
    unfold reportAppStateChanged
    split
    · rfl
    · split_ifs <;> rfl
  have hmap : (m.update c n).appVisibilityMap =
      if !m.isAllAbilitiesInvisible n.bundleName then
        m.appVisibilityMap.insert n.bundleName (!m.isAllAbilitiesInvisible n.bundleName)
      else m.appVisibilityMap.erase n.bundleName := by
    unfold update updateAppVisibility
    simp only
    split_ifs <;> simp only [hreport]
  unfold marked
  rw [hmap]
  by_cases hb : b = n.bundleName
  · subst hb
    rw [if_pos rfl]
    cases m.isAllAbilitiesInvisible n.bundleName <;> simp
  · rw [if_neg hb]
    split_ifs
    · rw [Std.TreeMap.getElem?_insert, if_neg fun h => hb (Std.LawfulEqCmp.eq_of_compare h).symm]
    · rw [Std.TreeMap.getElem?_erase, if_neg fun h => hb (Std.LawfulEqCmp.eq_of_compare h).symm]

theorem reportAppStateChanged_spec {uid : ℤ} (delivers : c.Delivers uid) (b' a n : String)
    (fg : Bool) :
    (m.reportAppStateChanged c b' a n uid fg).abilityWindowMap = m.abilityWindowMap ∧
      ∃ r : BundleActiveReportHandlerObject,
        (m.reportAppStateChanged c b' a n uid fg).reports = m.reports ++ [r] ∧
          r.bundleName = b' ∧ r.event.uid = uid ∧ r.event.eventId = appEvent fg := by
  obtain ⟨hhandler, userId, hne, huser⟩ := delivers
  unfold reportAppStateChanged
  simp only [huser, if_neg hne, hhandler, if_true]
  exact ⟨trivial, _, rfl, rfl, rfl, rfl⟩

theorem updates_update {n : AppUpdate} (delivers : c.Delivers n.uid) :
    Updates [n] m (m.update c n) := by
  have hspec : (m.update c n).abilityWindowMap = m.abilityWindowMap ∧
      ∃ rs : List BundleActiveReportHandlerObject, (m.update c n).reports = m.reports ++ rs ∧
        rs.map (fun r => (r.event.uid, r.event.eventId)) = m.change n ∧
        ∀ r ∈ rs, r.bundleName = n.bundleName := by
    have hreport : ∀ (app : Std.TreeMap String Bool) (fg : Bool),
        ({ m with appVisibilityMap := app }.reportAppStateChanged c n.bundleName n.abilityName
          n.moduleName n.uid fg).abilityWindowMap = m.abilityWindowMap ∧
        ∃ rs : List BundleActiveReportHandlerObject,
          ({ m with appVisibilityMap := app }.reportAppStateChanged c n.bundleName n.abilityName
            n.moduleName n.uid fg).reports = m.reports ++ rs ∧
          rs.map (fun r => (r.event.uid, r.event.eventId)) = [(n.uid, appEvent fg)] ∧
          ∀ r ∈ rs, r.bundleName = n.bundleName := by
      intro app fg
      obtain ⟨hwindows, r, hreports, hname, huid, hid⟩ :=
        reportAppStateChanged_spec (m := { m with appVisibilityMap := app }) delivers n.bundleName
          n.abilityName n.moduleName fg
      exact ⟨hwindows, [r], hreports, by rw [List.map_singleton, huid, hid], by simp [hname]⟩
    unfold update updateAppVisibility change marked
    cases m.isAllAbilitiesInvisible n.bundleName with
    | false =>
      cases (m.appVisibilityMap[n.bundleName]?).getD false with
      | false => exact hreport _ true
      | true => exact ⟨rfl, [], by simp⟩
    | true =>
      cases (m.appVisibilityMap[n.bundleName]?).getD false with
      | false => exact ⟨rfl, [], by simp⟩
      | true => exact hreport _ false
  obtain ⟨hwindows, rs, hreports, hchange, hnames⟩ := hspec
  refine ⟨hwindows, fun b => ?_, fun b => ?_⟩
  · rw [marked_updateAppVisibility]
    simp
  · unfold reportsOf
    rw [hreports, List.filter_append, List.map_append, List.find?_singleton]
    congr 1
    by_cases hb : n.bundleName = b
    · have hall : rs.filter (·.bundleName = b) = rs :=
        List.filter_eq_self.2 fun r hr => decide_eq_true ((hnames r hr).trans hb)
      rw [hall, hchange, if_pos (decide_eq_true hb)]
      rfl
    · have hnone : rs.filter (·.bundleName = b) = [] :=
        List.filter_eq_nil_iff.2 fun r hr h => hb ((hnames r hr).symm.trans (of_decide_eq_true h))
      rw [hnone, if_neg fun h => hb (of_decide_eq_true h)]
      rfl

theorem Updates.trans {n : AppUpdate} {ns : List AppUpdate}
    {m' m'' : BundleActiveWindowVisibilityManager} (h : Updates [n] m m') (h' : Updates ns m' m'') :
    Updates (n :: ns) m m'' := by
  have hinvisible : ∀ b, m'.isAllAbilitiesInvisible b = m.isAllAbilitiesInvisible b := fun b => by
    unfold isAllAbilitiesInvisible
    rw [h.windows]
  refine ⟨h'.windows.trans h.windows, fun b => ?_, fun b => ?_⟩
  · rw [h'.marks, h.marks, hinvisible]
    by_cases hb : b ∈ ns.map AppUpdate.bundleName
    · rw [if_pos hb, if_pos (by simpa using .inr (by simpa using hb))]
    · rw [if_neg hb]
      simp only [List.map_cons, List.map_nil, List.mem_cons, hb, List.not_mem_nil, or_false]
  · rw [h'.reported, h.reported, List.append_assoc]
    congr 1
    rw [List.find?_singleton, List.find?_cons]
    by_cases hb : n.bundleName = b
    · -- what follows finds the bundle as its first update left it
      have hdone : ∀ n', n'.bundleName = b → m'.change n' = [] := by
        intro n' hn'
        unfold change
        rw [h.marks, hinvisible, hn', if_pos (by simp [hb])]
      rw [if_pos (decide_eq_true hb), decide_eq_true hb]
      cases hfind : ns.find? (·.bundleName = b) with
      | none => simp
      | some n' =>
        have hn' : n'.bundleName = b := by simpa using List.find?_some hfind
        simp [hdone n' hn']
    · have hsame : ∀ n', n'.bundleName = b → m'.change n' = m.change n' := by
        intro n' hn'
        have hmark : m'.marked b = m.marked b := by
          rw [h.marks, if_neg (by simpa using Ne.symm hb)]
        unfold change
        rw [hn', hinvisible, hmark]
      rw [if_neg fun h => hb (of_decide_eq_true h), decide_eq_false hb]
      cases hfind : ns.find? (·.bundleName = b) with
      | none => simp
      | some n' =>
        have hn' : n'.bundleName = b := by simpa using List.find?_some hfind
        simp [hsame n' hn']

theorem updates_foldl {ns : List AppUpdate} (delivers : ∀ n ∈ ns, c.Delivers n.uid) :
    Updates ns m (ns.foldl (update c) m) := by
  induction ns generalizing m with
  | nil => exact ⟨rfl, fun b => by simp, fun b => by simp⟩
  | cons n ns ih =>
    exact (updates_update (delivers n List.mem_cons_self)).trans
      (ih fun n' hn' => delivers n' (List.mem_cons_of_mem _ hn'))

end BundleActiveWindowVisibilityManager

end DeviceUsageStats
