import DeviceUsageStats.Lib.Transitions
import DeviceUsageStats.Sanity.WindowVisibility

/-! The reports of a bundle follow its windows. When each uid has one bundle name, a call changes what is
visible only for the bundles it names, and it updates all of these. -/

namespace DeviceUsageStats

/-- Whether the bundle was in the foreground before an event of the report stream. -/
def EventId.wasForeground : EventId → Option Bool
  | .abilityForeground => some false
  | .abilityBackground => some true
  | _ => none

def EventId.isForeground : EventId → Option Bool
  | .abilityForeground => some true
  | .abilityBackground => some false
  | _ => none

/-- Foreground and background events in turn, from a foreground one on, up to a foreground one or not. -/
abbrev SessionsUpTo (events : List EventId) (foreground : Bool) : Prop :=
  Transitions.Replays EventId.wasForeground EventId.isForeground (some false) events
    (some foreground)

def Alternate (events : List EventId) : Prop := ∃ foreground, SessionsUpTo events foreground

theorem SessionsUpTo.snoc {events : List EventId} {fg : Bool} (h : SessionsUpTo events (!fg)) :
    SessionsUpTo (events ++ [BundleActiveWindowVisibilityManager.appEvent fg]) fg := by
  refine Transitions.Replays.append h ?_
  cases fg <;> exact ⟨rfl, by decide, rfl⟩

theorem SessionsUpTo.last_iff {events : List EventId} {fg : Bool} (h : SessionsUpTo events fg) :
    events.getLast? = some .abilityForeground ↔ fg = true := by
  have hlast := Transitions.Replays.last h
  constructor
  · intro hfg
    rw [hfg] at hlast
    exact Option.some.inj hlast
  · rintro rfl
    cases hevents : events.getLast? with
    | none =>
      rw [hevents] at hlast
      cases hlast
    | some event =>
      rw [hevents] at hlast
      cases event <;> simp_all [EventId.isForeground]

namespace BundleActiveWindowVisibilityManager

variable {m : BundleActiveWindowVisibilityManager} {c : ReportContext} {nameOf : ℤ → String}
  {op : WindowOp}

/-- The marks follow the windows and the reports of each bundle lead up to its mark. -/
structure Tracked (nameOf : ℤ → String) (m : BundleActiveWindowVisibilityManager) : Prop where
  named : WindowsNamed nameOf m
  marks : ∀ b, m.marked b = !m.isAllAbilitiesInvisible b
  sessions : ∀ b, SessionsUpTo ((m.reportsOf b).map Prod.snd) (m.marked b)

def BundleShows (nameOf : ℤ → String) (v : WindowView) (bundleName : String) : Prop :=
  ∃ uid, nameOf uid = bundleName ∧ UidShows v uid

theorem invisible_eq_iff (named : WindowsNamed nameOf m) (b : String) :
    (!m.isAllAbilitiesInvisible b) = true ↔ BundleShows nameOf m.shows b := by
  rw [Bool.not_eq_true', isAllAbilitiesInvisible_iff, hasVisibleWindow_iff named]
  rfl

theorem tracked_empty (nameOf : ℤ → String) : Tracked nameOf {} := by
  refine ⟨fun key w h => ?_, fun b => ?_, fun b => ?_⟩
  · simp at h
  · simp [marked, isAllAbilitiesInvisible]
  · have hmark : marked {} b = false := by simp [marked]
    rw [hmark]
    rfl

theorem bundleShows_showsAfter (names : op.NamesBundles nameOf) {b : String}
    (h : b ∉ op.updates.map AppUpdate.bundleName) (v : WindowView) :
    BundleShows nameOf (op.showsAfter v) b ↔ BundleShows nameOf v b := by
  refine exists_congr fun uid => and_congr_right fun huid => ?_
  refine WindowOp.uidShows_showsAfter (fun n hn heq => h ?_) v
  rw [← huid, ← heq, ← names n hn]
  exact List.mem_map_of_mem hn

theorem isAllAbilitiesInvisible_congr {m m' : BundleActiveWindowVisibilityManager}
    (h : m'.abilityWindowMap = m.abilityWindowMap) (b : String) :
    m'.isAllAbilitiesInvisible b = m.isAllAbilitiesInvisible b := by
  unfold isAllAbilitiesInvisible
  rw [h]

/-- What a call does: the windows are recorded, the mark of every bundle follows them, and the first
update of a bundle reports a change of its mark. -/
theorem Tracked.apply_spec (tracked : Tracked nameOf m) (names : op.NamesBundles nameOf)
    (delivers : ∀ n ∈ op.updates, c.Delivers n.uid) :
    WindowsNamed nameOf (m.apply c op) ∧ (m.apply c op).shows = op.showsAfter m.shows ∧
      (∀ b, (m.apply c op).marked b = !(m.apply c op).isAllAbilitiesInvisible b) ∧
      ∀ b, (m.apply c op).reportsOf b = m.reportsOf b ++
        ((op.updates.find? (·.bundleName = b)).map fun n =>
          if m.marked b = (m.apply c op).marked b then []
          else [(n.uid, appEvent ((m.apply c op).marked b))]).getD [] := by
  have hrec := records_recorded tracked.named names
  have hup := updates_foldl (m := m.recorded op) delivers
  rw [← apply_eq] at hup
  have hnamed : WindowsNamed nameOf (m.apply c op) := fun key w hw => by
    rw [hup.windows] at hw
    exact hrec.named key w hw
  have hshows : (m.apply c op).shows = op.showsAfter m.shows := by
    rw [← hrec.view]
    unfold shows
    rw [hup.windows]
  have hinv := isAllAbilitiesInvisible_congr hup.windows
  have hmark : ∀ b, (m.recorded op).marked b = m.marked b := fun b => by
    rw [marked, hrec.app]
    rfl
  have hmarks : ∀ b, (m.apply c op).marked b = !(m.apply c op).isAllAbilitiesInvisible b := by
    intro b
    rw [hup.marks, hinv]
    split_ifs with hb
    · rfl
    · rw [hmark, tracked.marks, ← hinv, Bool.eq_iff_iff, invisible_eq_iff tracked.named,
        invisible_eq_iff hnamed, hshows, bundleShows_showsAfter names hb]
  refine ⟨hnamed, hshows, hmarks, fun b => ?_⟩
  rw [hup.reported]
  congr 1
  · rw [reportsOf, hrec.reports]
    rfl
  · cases hfind : op.updates.find? (·.bundleName = b) with
    | none => rfl
    | some n =>
      have hn : n.bundleName = b := by simpa using List.find?_some hfind
      simp only [Option.map_some, Option.getD_some, change, hn, hmark, hmarks, hinv]

theorem Tracked.marked_apply_of_none (tracked : Tracked nameOf m) (names : op.NamesBundles nameOf)
    (delivers : ∀ n ∈ op.updates, c.Delivers n.uid) {b : String}
    (hfind : op.updates.find? (·.bundleName = b) = none) :
    (m.apply c op).marked b = m.marked b := by
  obtain ⟨hnamed, hshows, hmarks, -⟩ := tracked.apply_spec names delivers
  have hb : b ∉ op.updates.map AppUpdate.bundleName := fun hmem => by
    obtain ⟨n, hn, rfl⟩ := List.mem_map.1 hmem
    simpa using List.find?_eq_none.1 hfind n hn
  rw [hmarks, tracked.marks, Bool.eq_iff_iff, invisible_eq_iff tracked.named,
    invisible_eq_iff hnamed, hshows, bundleShows_showsAfter names hb]

theorem Tracked.apply (tracked : Tracked nameOf m) (names : op.NamesBundles nameOf)
    (delivers : ∀ n ∈ op.updates, c.Delivers n.uid) : Tracked nameOf (m.apply c op) := by
  obtain ⟨hnamed, -, hmarks, hreports⟩ := tracked.apply_spec names delivers
  refine ⟨hnamed, hmarks, fun b => ?_⟩
  rw [hreports]
  cases hfind : op.updates.find? (·.bundleName = b) with
  | none =>
    rw [tracked.marked_apply_of_none names delivers hfind, Option.map_none, Option.getD_none,
      List.append_nil]
    exact tracked.sessions b
  | some n =>
    simp only [Option.map_some, Option.getD_some]
    split_ifs with hsame
    · rw [← hsame, List.append_nil]
      exact tracked.sessions b
    · rw [List.map_append]
      refine SessionsUpTo.snoc ?_
      rw [← Bool.eq_not.2 hsame]
      exact tracked.sessions b

/-- Every call names each uid with its bundle name, and its reports are delivered. -/
def Allowed (c : ReportContext) (nameOf : ℤ → String) (op : WindowOp) : Prop :=
  ∀ n ∈ op.updates, n.bundleName = nameOf n.uid ∧ c.Delivers n.uid

theorem Allowed.names (h : Allowed c nameOf op) : op.NamesBundles nameOf := fun n hn => (h n hn).1

theorem Allowed.delivers (h : Allowed c nameOf op) : ∀ n ∈ op.updates, c.Delivers n.uid :=
  fun n hn => (h n hn).2

theorem tracked_run {ops : List WindowOp} (allowed : ∀ op ∈ ops, Allowed c nameOf op)
    (tracked : Tracked nameOf m) : Tracked nameOf (ops.foldl (apply c) m) := by
  induction ops generalizing m with
  | nil => exact tracked
  | cons op ops ih =>
    have hop := allowed op List.mem_cons_self
    exact ih (fun op' hop' => allowed op' (List.mem_cons_of_mem _ hop'))
      (tracked.apply hop.names hop.delivers)

/-- After every run of calls the reports of a bundle alternate from a foreground one on, the bundle is
marked visible exactly if one of its windows is, and its last report agrees with the mark. -/
theorem visibility_tracked (c : ReportContext) (nameOf : ℤ → String) (ops : List WindowOp)
    (allowed : ∀ op ∈ ops, Allowed c nameOf op) (bundleName : String) :
    Alternate (((ops.foldl (apply c) {}).reports.filter (·.bundleName = bundleName)).map
        (·.event.eventId)) ∧
      ((ops.foldl (apply c) {}).appVisibilityMap[bundleName]? = some true ↔
        (ops.foldl (apply c) {}).HasVisibleWindow bundleName) ∧
      ∀ r, ((ops.foldl (apply c) {}).reports.filter (·.bundleName = bundleName)).getLast? = some r →
        (r.event.eventId = .abilityForeground ↔
          (ops.foldl (apply c) {}).appVisibilityMap[bundleName]? = some true) := by
  have tracked := tracked_run allowed (tracked_empty nameOf)
  generalize ops.foldl (apply c) {} = m at tracked ⊢
  have hsessions : SessionsUpTo
      ((m.reports.filter (·.bundleName = bundleName)).map (·.event.eventId))
      (m.marked bundleName) := by
    simpa [reportsOf, Function.comp_def] using tracked.sessions bundleName
  refine ⟨⟨_, hsessions⟩, ?_, fun r hr => ?_⟩
  · rw [← marked_iff, tracked.marks, Bool.not_eq_true', isAllAbilitiesInvisible_iff]
  · rw [← marked_iff, ← hsessions.last_iff, List.getLast?_map, hr, Option.map_some,
      Option.some_inj]

/-! ### One run -/

def oneUser : ReportContext :=
  { getUserId := fun _ => some 100, getBootTimeMs := fun n => 1000 * n, hasReportHandler := true }

theorem delivers_oneUser (uid : ℤ) : oneUser.Delivers uid := ⟨rfl, 100, by decide, rfl⟩

def mailWindow (uid : ℤ) (windowId : ℕ) (isVisible : Bool) : WindowInfoData :=
  { bundleName := "com.example.mail", abilityName := "MainAbility", moduleName := "entry"
    windowId := windowId, isVisible := isVisible, uid := uid }

theorem allowed_mail (infos : List (Option WindowInfoData))
    (h : ∀ d ∈ infos.reduceOption, d.bundleName = "com.example.mail") :
    Allowed oneUser (fun _ => "com.example.mail") (.changed infos) := by
  intro n hn
  obtain ⟨d, hd, rfl⟩ := List.mem_map.1 hn
  exact ⟨h d (List.mem_filter.1 hd).1, delivers_oneUser _⟩

/-- Two windows come up and one goes. -/
theorem visibility_tracked_mail :
    Alternate ((([WindowOp.changed [some (mailWindow 20010044 1 true), none,
            some (mailWindow 20010044 2 true), some (mailWindow 20010044 1 false)]].foldl
          (apply oneUser) {}).reports.filter (·.bundleName = "com.example.mail")).map
            (·.event.eventId)) :=
  (visibility_tracked oneUser (fun _ => "com.example.mail") _
    (fun op hop => by
      rw [List.mem_singleton.1 hop]
      exact allowed_mail _ (by decide +kernel)) "com.example.mail").1

end BundleActiveWindowVisibilityManager
end DeviceUsageStats
