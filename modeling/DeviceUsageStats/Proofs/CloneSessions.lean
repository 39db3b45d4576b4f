import DeviceUsageStats.Proofs.WindowSessions

/-! The reports that carry a uid. What is visible is kept for each bundle, and a report carries the uid
of the first window that the call names of the bundle: with clones this need not be the uid whose
session opens or ends. -/

namespace DeviceUsageStats

/-- The uids that a call names, with those of the windows that it leaves out. -/
def WindowOp.uids : WindowOp → List ℤ
  | .changed windowVisibilityInfo => windowVisibilityInfo.reduceOption.map (·.uid)
  | .clear _ _ _ uid => [uid]

theorem WindowOp.mem_uids {op : WindowOp} {n : AppUpdate} (hn : n ∈ op.updates) :
    n.uid ∈ op.uids := by
  cases op with
  | changed infos =>
    obtain ⟨d, hd, rfl⟩ := List.mem_map.1 hn
    exact List.mem_map_of_mem (List.mem_filter.1 hd).1
  | clear b a mo uid =>
    rw [List.mem_singleton.1 hn]
    exact List.mem_singleton_self _

namespace BundleActiveWindowVisibilityManager

variable {m : BundleActiveWindowVisibilityManager} {c : ReportContext} {nameOf : ℤ → String}
  {op : WindowOp} {b : String} {u : ℤ}

def uidEvents (m : BundleActiveWindowVisibilityManager) (uid : ℤ) : List EventId :=
  (m.reports.filter (·.event.uid = uid)).map (·.event.eventId)

def HasVisibleWindowOf (m : BundleActiveWindowVisibilityManager) (uid : ℤ) : Prop :=
  ∃ (key : String) (w : AbilityWindowInfo) (id : ℕ), m.abilityWindowMap[key]? = some w ∧
    w.uid = uid ∧ w.windowVisibilityMap[id]? = some true

/-- After a call the reports of each uid alternate from a foreground one on, and those of a uid that the
call names do not end in the foreground if none of its windows is visible. -/
def UidsPaired (c : ReportContext) (m : BundleActiveWindowVisibilityManager) (op : WindowOp) : Prop :=
  (∀ uid, Alternate ((m.apply c op).uidEvents uid)) ∧
    ∀ uid ∈ op.uids, ¬ (m.apply c op).HasVisibleWindowOf uid →
      ((m.apply c op).uidEvents uid).getLast? ≠ some .abilityForeground

/-- The uid that the open session of a bundle was reported with. -/
def sessionUid (m : BundleActiveWindowVisibilityManager) (bundleName : String) : Option ℤ :=
  (m.reportsOf bundleName).getLast?.bind fun r =>
    if r.2 = .abilityForeground then some r.1 else none

/-- The reports of a call open and end sessions with the right uid: for the first window that it names
of a bundle, an open session has a visible window of its own left, or else ends with a window of its
own uid, and a session that opens has a visible window of the uid it opens with. -/
def SessionsOwned (nameOf : ℤ → String) (m : BundleActiveWindowVisibilityManager) (op : WindowOp) :
    Prop :=
  ∀ b n, op.updates.find? (·.bundleName = b) = some n →
    (∀ uid, m.sessionUid b = some uid →
      (BundleShows nameOf (op.showsAfter m.shows) b → UidShows (op.showsAfter m.shows) uid) ∧
        (¬ BundleShows nameOf (op.showsAfter m.shows) b → n.uid = uid)) ∧
    (m.sessionUid b = none → BundleShows nameOf (op.showsAfter m.shows) b →
      UidShows (op.showsAfter m.shows) n.uid)

def EachCall (c : ReportContext) (Q : BundleActiveWindowVisibilityManager → WindowOp → Prop) :
    BundleActiveWindowVisibilityManager → List WindowOp → Prop
  | _, [] => True
  | m, op :: ops => Q m op ∧ EachCall c Q (m.apply c op) ops

/-! ### Sessions and uids -/

theorem hasVisibleWindowOf_iff (named : WindowsNamed nameOf m) (uid : ℤ) :
    m.HasVisibleWindowOf uid ↔ UidShows m.shows uid := by
  constructor
  · rintro ⟨key, w, id, hw, rfl, hid⟩
    obtain ⟨rfl, -⟩ := named key w hw
    exact ⟨w.abilityName, w.moduleName, id, shows_eq_true.2 ⟨w, hw, hid⟩⟩
  · rintro ⟨a, mo, id, hshows⟩
    obtain ⟨w, hw, hid⟩ := shows_eq_true.1 hshows
    exact ⟨_, w, id, hw, generateAbilityKey_uid (named _ w hw).1, hid⟩

def ReportsNamed (nameOf : ℤ → String) (m : BundleActiveWindowVisibilityManager) : Prop :=
  ∀ b, ∀ r ∈ m.reportsOf b, nameOf r.1 = b

theorem uidEvents_eq (named : ReportsNamed nameOf m) (uid : ℤ) :
    m.uidEvents uid = ((m.reportsOf (nameOf uid)).filter (·.1 = uid)).map Prod.snd := by
  unfold uidEvents
  rw [reportsOf, List.filter_map, List.filter_filter, List.map_map]
  refine congrArg _ (List.filter_congr fun r hr => ?_)
  have hname : nameOf r.event.uid = r.bundleName :=
    named r.bundleName _ (List.mem_map.2 ⟨r, List.mem_filter.2 ⟨hr, by simp⟩, rfl⟩)
  by_cases huid : r.event.uid = uid
  · subst huid
    simp [hname]
  · simp [huid]

/-- The sessions of the uids: each uid's reports lead up to whether it holds the session of its bundle,
and who holds a session shows a window. -/
structure Paired (nameOf : ℤ → String) (m : BundleActiveWindowVisibilityManager) : Prop
    extends Tracked nameOf m where
  reports : ReportsNamed nameOf m
  uids : ∀ uid, SessionsUpTo (m.uidEvents uid) (m.sessionUid (nameOf uid) = some uid)
  holds : ∀ b uid, m.sessionUid b = some uid → UidShows m.shows uid

theorem Tracked.isSome_sessionUid (tracked : Tracked nameOf m) (b : String) :
    (m.sessionUid b).isSome = m.marked b := by
  have hlast := (tracked.sessions b).last_iff
  rw [List.getLast?_map] at hlast
  unfold sessionUid
  rw [Bool.eq_iff_iff, ← hlast]
  cases (m.reportsOf b).getLast? with
  | none => simp
  | some r => by_cases h : r.2 = .abilityForeground <;> simp [h]

theorem ReportsNamed.sessionUid (named : ReportsNamed nameOf m) (h : m.sessionUid b = some u) :
    nameOf u = b := by
  obtain ⟨r, hr, hu⟩ := Option.bind_eq_some_iff.1 h
  split_ifs at hu with hfg
  cases hu
  exact named b r (List.mem_of_getLast? hr)

theorem paired_empty (nameOf : ℤ → String) : Paired nameOf {} where
  toTracked := tracked_empty nameOf
  reports _ _ h := by cases h
  uids _ := rfl
  holds _ _ h := by cases h

/-! ### One call -/

section Call

variable (paired : Paired nameOf m) (allowed : Allowed c nameOf op)

include paired allowed

/-- The first update of a bundle reports with its uid; without one nothing is reported of the bundle. -/
theorem reportsNamed_apply : ReportsNamed nameOf (m.apply c op) := by
  intro b r hr
  rw [(paired.apply_spec allowed.names allowed.delivers).2.2.2, List.mem_append] at hr
  rcases hr with hr | hr
  · exact paired.reports b r hr
  · cases hfind : op.updates.find? (·.bundleName = b) with
    | none => simp [hfind] at hr
    | some n =>
      have hb : n.bundleName = b := by simpa using List.find?_some hfind
      have hn := (allowed n (List.mem_of_find?_eq_some hfind)).1
      rw [hfind, Option.map_some, Option.getD_some] at hr
      split_ifs at hr
      · cases hr
      · rw [List.mem_singleton.1 hr, ← hn, hb]

theorem reportsOf_apply_of_same (hsame : m.marked b = (m.apply c op).marked b) :
    (m.apply c op).reportsOf b = m.reportsOf b := by
  rw [(paired.apply_spec allowed.names allowed.delivers).2.2.2]
  cases op.updates.find? (·.bundleName = b) with
  | none => exact List.append_nil _
  | some n =>
    rw [Option.map_some, if_pos hsame]
    exact List.append_nil _

theorem reportsOf_apply_of_ne {n : AppUpdate}
    (hfind : op.updates.find? (·.bundleName = b) = some n)
    (hne : m.marked b ≠ (m.apply c op).marked b) :
    (m.apply c op).reportsOf b =
      m.reportsOf b ++ [(n.uid, appEvent ((m.apply c op).marked b))] := by
  rw [(paired.apply_spec allowed.names allowed.delivers).2.2.2, hfind, Option.map_some,
    if_neg hne]
  rfl

theorem marked_apply (b : String) : (m.apply c op).marked b = true ↔
    BundleShows nameOf (op.showsAfter m.shows) b := by
  obtain ⟨hnamed, hshows, hmarks, -⟩ := paired.apply_spec allowed.names allowed.delivers
  rw [hmarks, invisible_eq_iff hnamed, hshows]

theorem uidEvents_apply_of_same (h : (m.apply c op).reportsOf (nameOf u) = m.reportsOf (nameOf u)) :
    (m.apply c op).uidEvents u = m.uidEvents u := by
  rw [uidEvents_eq (reportsNamed_apply paired allowed), uidEvents_eq paired.reports, h]

theorem uidEvents_apply_of_ne {n : AppUpdate}
    (hfind : op.updates.find? (·.bundleName = nameOf u) = some n)
    (hne : m.marked (nameOf u) ≠ (m.apply c op).marked (nameOf u)) :
    (m.apply c op).uidEvents u = m.uidEvents u ++
      if n.uid = u then [appEvent ((m.apply c op).marked (nameOf u))] else [] := by
  rw [uidEvents_eq (reportsNamed_apply paired allowed), uidEvents_eq paired.reports,
    reportsOf_apply_of_ne paired allowed hfind hne, List.filter_append, List.map_append]
  by_cases hu : n.uid = u <;> simp [hu]

theorem exists_find_of_ne (hne : m.marked b ≠ (m.apply c op).marked b) :
    ∃ n, op.updates.find? (·.bundleName = b) = some n := by
  cases hfind : op.updates.find? (·.bundleName = b) with
  | none =>
    exact absurd (paired.marked_apply_of_none allowed.names allowed.delivers hfind).symm hne
  | some n => exact ⟨n, rfl⟩

end Call

theorem sessionUid_of_append {m' : BundleActiveWindowVisibilityManager} {uid : ℤ} {fg : Bool}
    (h : m'.reportsOf b = m.reportsOf b ++ [(uid, appEvent fg)]) :
    m'.sessionUid b = if fg then some uid else none := by
  unfold sessionUid
  rw [h, List.getLast?_append]
  cases fg <;> rfl

theorem sessionUid_congr {m' : BundleActiveWindowVisibilityManager}
    (h : m'.reportsOf b = m.reportsOf b) : m'.sessionUid b = m.sessionUid b := by
  rw [sessionUid, h]
  rfl

theorem Paired.uidShows_of_not_named (paired : Paired nameOf m) (h : m.sessionUid b = some u)
    (hu : ∀ n ∈ op.updates, n.uid ≠ u) : UidShows (op.showsAfter m.shows) u :=
  (WindowOp.uidShows_showsAfter hu _).2 (paired.holds b u h)

theorem Paired.sessionUid_of_marked (paired : Paired nameOf m) (h : m.marked b = true) :
    ∃ u, m.sessionUid b = some u :=
  Option.isSome_iff_exists.1 ((paired.isSome_sessionUid b).trans h)

theorem Paired.sessionUid_of_not_marked (paired : Paired nameOf m) (h : m.marked b = false) :
    m.sessionUid b = none :=
  Option.not_isSome_iff_eq_none.1 fun hsome => by
    rw [paired.isSome_sessionUid, h] at hsome
    cases hsome

theorem Paired.apply (paired : Paired nameOf m) (allowed : Allowed c nameOf op)
    (owned : SessionsOwned nameOf m op) : Paired nameOf (m.apply c op) := by
  have hmarked := marked_apply paired allowed
  have hshows := (paired.apply_spec allowed.names allowed.delivers).2.1
  refine ⟨paired.toTracked.apply allowed.names allowed.delivers, reportsNamed_apply paired allowed,
    fun u => ?_, fun b u h => ?_⟩
  · rcases eq_or_ne (m.marked (nameOf u)) ((m.apply c op).marked (nameOf u)) with hsame | hne
    · have hreports := reportsOf_apply_of_same paired allowed hsame
      rw [uidEvents_apply_of_same paired allowed hreports, sessionUid_congr hreports]
      exact paired.uids u
    · obtain ⟨n, hfind⟩ := exists_find_of_ne paired allowed hne
      obtain ⟨hopen, hclosed⟩ := owned _ n hfind
      rw [uidEvents_apply_of_ne paired allowed hfind hne,
        sessionUid_of_append (reportsOf_apply_of_ne paired allowed hfind hne)]
      have hu := paired.uids u
      cases hmark : (m.apply c op).marked (nameOf u) with
      | true =>
        -- the session opens: no uid of the bundle held one
        rw [hmark] at hne
        rw [paired.sessionUid_of_not_marked (Bool.eq_false_iff.2 hne)] at hu
        by_cases huid : n.uid = u
        · have hsnoc : SessionsUpTo (m.uidEvents u ++ [appEvent true]) true :=
            .snoc (by simpa using hu)
          simpa [huid] using hsnoc
        · simpa [huid] using hu
      | false =>
        -- the session ends with a window of the uid that holds it
        rw [hmark] at hne
        obtain ⟨v, hv⟩ := paired.sessionUid_of_marked (Bool.eq_true_of_not_eq_false hne)
        have hgone : ¬ BundleShows nameOf (op.showsAfter m.shows) (nameOf u) := fun h => by
          rw [← hmarked, hmark] at h
          cases h
        rw [hv, ← (hopen v hv).2 hgone] at hu
        by_cases huid : n.uid = u
        · have hsnoc : SessionsUpTo (m.uidEvents u ++ [appEvent false]) false :=
            .snoc (by simpa [huid] using hu)
          simpa [huid] using hsnoc
        · simpa [huid] using hu
  · rw [hshows]
    rcases eq_or_ne (m.marked b) ((m.apply c op).marked b) with hsame | hne
    · rw [sessionUid_congr (reportsOf_apply_of_same paired allowed hsame)] at h
      cases hfind : op.updates.find? (·.bundleName = b) with
      | none =>
        refine paired.uidShows_of_not_named h fun n hn hu => ?_
        have hb : n.bundleName = b := by
          rw [(allowed n hn).1, hu, paired.reports.sessionUid h]
        simpa [hb] using List.find?_eq_none.1 hfind n hn
      | some n =>
        refine ((owned b n hfind).1 u h).1 ((hmarked b).1 ?_)
        rw [← hsame, ← paired.isSome_sessionUid, h]
        rfl
    · obtain ⟨n, hfind⟩ := exists_find_of_ne paired allowed hne
      rw [sessionUid_of_append (reportsOf_apply_of_ne paired allowed hfind hne)] at h
      split_ifs at h with hmark
      cases h
      rw [hmark] at hne
      exact (owned b n hfind).2 (paired.sessionUid_of_not_marked (Bool.eq_false_iff.2 hne))
        ((hmarked b).1 hmark)

/-- In a state of paired sessions every uid's reports alternate, and end in the foreground only while
one of its windows is visible. -/
theorem Paired.pairs (paired : Paired nameOf m) (uid : ℤ) :
    Alternate (m.uidEvents uid) ∧
      (¬ m.HasVisibleWindowOf uid → (m.uidEvents uid).getLast? ≠ some .abilityForeground) := by
  refine ⟨⟨_, paired.uids uid⟩, fun hshow hlast => hshow ?_⟩
  rw [hasVisibleWindowOf_iff paired.named]
  exact paired.holds _ uid (by simpa using (paired.uids uid).last_iff.1 hlast)

/-- A call that leaves the reports of the uids paired opens and ends each session with its own uid. -/
theorem Paired.sessionsOwned (paired : Paired nameOf m) (allowed : Allowed c nameOf op)
    (pairs : UidsPaired c m op) : SessionsOwned nameOf m op := by
  have hmarked := marked_apply paired allowed
  obtain ⟨hnamed, hshows, -, -⟩ := paired.apply_spec allowed.names allowed.delivers
  have hfirst : ∀ b n, op.updates.find? (·.bundleName = b) = some n →
      n ∈ op.updates ∧ nameOf n.uid = b := fun b n hfind => by
    have hn := List.mem_of_find?_eq_some hfind
    exact ⟨hn, by rw [← (allowed n hn).1]; simpa using List.find?_some hfind⟩
  -- the last report of a uid that the call names is no foreground report without a window
  have hlast : ∀ n ∈ op.updates, ¬ UidShows (op.showsAfter m.shows) n.uid →
      ((m.apply c op).uidEvents n.uid).getLast? ≠ some .abilityForeground := fun n hn h =>
    pairs.2 n.uid (WindowOp.mem_uids hn) (by rwa [hasVisibleWindowOf_iff hnamed, hshows])
  intro b n hfind
  obtain ⟨hn, rfl⟩ := hfirst b n hfind
  refine ⟨fun u hu => ?_, fun hnone hshow => ?_⟩
  · have hb := paired.reports.sessionUid hu
    have hwas : m.marked (nameOf n.uid) = true := by
      rw [← paired.isSome_sessionUid, hu]
      rfl
    have hfg := (paired.uids u).last_iff.2 (by simp [hb, hu])
    refine ⟨fun hshow => ?_, fun hgone => ?_⟩
    · -- the bundle stays visible and nothing is reported of it
      by_contra hno
      have hnamedBy : ∃ n' ∈ op.updates, n'.uid = u := by
        by_contra hnot
        exact hno (paired.uidShows_of_not_named hu fun n' hn' h => hnot ⟨n', hn', h⟩)
      obtain ⟨n', hn', rfl⟩ := hnamedBy
      refine hlast n' hn' hno ?_
      have hsame := hwas.trans ((hmarked _).2 hshow).symm
      rw [← hb] at hsame
      rwa [uidEvents_apply_of_same paired allowed (reportsOf_apply_of_same paired allowed hsame)]
    · -- the background report must end a session of its uid
      have hmark : (m.apply c op).marked (nameOf n.uid) = false :=
        Bool.eq_false_iff.2 fun h => hgone ((hmarked _).1 h)
      have hne : m.marked (nameOf n.uid) ≠ (m.apply c op).marked (nameOf n.uid) := by
        rw [hwas, hmark]
        decide
      obtain ⟨fg, halt⟩ := pairs.1 n.uid
      rw [uidEvents_apply_of_ne paired allowed hfind hne, if_pos rfl, hmark] at halt
      obtain ⟨v, hbefore, hafter⟩ := Transitions.Replays.of_append halt
      have hopen := hafter.1.trans (hbefore.last.trans (paired.uids n.uid).last.symm)
      have hheld : m.sessionUid (nameOf n.uid) = some n.uid := by
        simpa [EventId.wasForeground, appEvent] using hopen
      exact Option.some.inj (hheld.symm.trans hu)
  · -- the foreground report opens a session of its uid
    have hwas : m.marked (nameOf n.uid) = false := by
      rw [← paired.isSome_sessionUid, hnone]
      rfl
    have hmark := (hmarked _).2 hshow
    by_contra hno
    refine hlast n hn hno ?_
    rw [uidEvents_apply_of_ne paired allowed hfind (by rw [hwas, hmark]; decide), if_pos rfl, hmark,
      List.getLast?_append]
    rfl

/-- In a run in which every uid has one bundle name, the reports of the uids are paired after every
call exactly if every call opens and ends each session with its own uid. -/
theorem uids_paired_iff (c : ReportContext) (nameOf : ℤ → String) (ops : List WindowOp)
    (allowed : ∀ op ∈ ops, Allowed c nameOf op) :
    EachCall c (UidsPaired c) {} ops ↔ EachCall c (SessionsOwned nameOf) {} ops := by
  have hrun : ∀ m, Paired nameOf m →
      (EachCall c (UidsPaired c) m ops ↔ EachCall c (SessionsOwned nameOf) m ops) := by
    induction ops with
    | nil => exact fun _ _ => Iff.rfl
    | cons op ops ih =>
      intro m paired
      have hop := allowed op List.mem_cons_self
      have hops : ∀ op' ∈ ops, Allowed c nameOf op' := fun op' h =>
        allowed op' (List.mem_cons_of_mem _ h)
      constructor
      · rintro ⟨pairs, hrest⟩
        have owned := paired.sessionsOwned hop pairs
        exact ⟨owned, (ih hops _ (paired.apply hop owned)).1 hrest⟩
      · rintro ⟨owned, hrest⟩
        have hpaired := paired.apply hop owned
        exact ⟨⟨fun uid => (hpaired.pairs uid).1, fun uid _ => (hpaired.pairs uid).2⟩,
          (ih hops _ hpaired).2 hrest⟩
  exact hrun {} (paired_empty nameOf)

/-- The clones of an application show their windows one after the other. -/
def clonesInTurn : List WindowOp :=
  [.changed [some (mailWindow 20010044 1 true)], .changed [some (mailWindow 20010044 1 false)],
    .changed [some (mailWindow 20010045 2 true)]]

theorem uids_paired_iff_clonesInTurn :
    EachCall oneUser (UidsPaired oneUser) {} clonesInTurn ↔
      EachCall oneUser (SessionsOwned fun _ => "com.example.mail") {} clonesInTurn :=
  uids_paired_iff oneUser (fun _ => "com.example.mail") clonesInTurn fun op hop => by
    rw [clonesInTurn, List.mem_cons, List.mem_cons, List.mem_singleton] at hop
    rcases hop with rfl | rfl | rfl <;> exact allowed_mail _ (by decide +kernel)

/-- The first clone goes while the second shows a window, then the second goes: the session of the
first stays open, and the second is reported in the background without ever having been in front. -/
theorem not_uidsPaired_clones :
    ¬ EachCall oneUser (UidsPaired oneUser) {}
      [.changed [some (mailWindow 20010044 1 true)], .changed [some (mailWindow 20010045 2 true)],
        .changed [some (mailWindow 20010044 1 false)],
        .changed [some (mailWindow 20010045 2 false)]] := by
  rintro ⟨-, -, -, ⟨halternate, -⟩, -⟩
  obtain ⟨fg, hevents⟩ := halternate 20010045
  revert hevents
  generalize hevents : uidEvents _ 20010045 = events
  have : events = [.abilityBackground] := hevents.symm.trans (by decide +kernel)
  rw [this]
  rintro ⟨hwas, -⟩
  exact absurd hwas (by decide)

end BundleActiveWindowVisibilityManager
end DeviceUsageStats
