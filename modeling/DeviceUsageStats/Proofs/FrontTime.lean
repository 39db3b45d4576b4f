import DeviceUsageStats.Proofs.ForegroundTime
import DeviceUsageStats.Proofs.RunningSessions
import DeviceUsageStats.Sanity.PeriodEntries

/-! The time in front of one bundle in a service. A tick and the restart of a session that runs move
no time, at whatever stamp they come, so the time in front read at an instant changes only by the
capture of a rollover, which keeps it in the saved day, and by a new period, which starts it again. -/

namespace DeviceUsageStats

namespace BundleActivePackageStats

variable {s : BundleActivePackageStats} {n a : String} {e : EventId} {t τ : ℤ}

theorem incrementTimeUsed_maps (s : BundleActivePackageStats) (τ : ℤ) :
    (s.incrementTimeUsed τ).abilities = s.abilities ∧
      (s.incrementTimeUsed τ).lastTimeUsed = max s.lastTimeUsed τ := by
  unfold incrementTimeUsed
  split_ifs with h
  · exact ⟨rfl, (max_eq_right h.le).symm⟩
  · exact ⟨rfl, (max_eq_left (not_lt.1 h)).symm⟩

theorem frontTimeAt_incrementTimeUsed (h : s.hasFrontAbility = true) :
    (s.incrementTimeUsed τ).frontTimeAt t = s.frontTimeAt t := by
  have hfront : (s.incrementTimeUsed τ).hasFrontAbility = true :=
    (hasFrontAbility_congr (s.incrementTimeUsed_maps τ).1).trans h
  rw [frontTimeAt_of_front hfront, frontTimeAt_of_front h]
  unfold incrementTimeUsed
  split_ifs
  · simp only
    ring
  · rfl

theorem sameFront_tick (s : BundleActivePackageStats) (τ : ℤ) :
    SameFront (if s.hasFrontAbility then s.incrementTimeUsed τ else s) (s.tick τ) := by
  unfold tick
  simp only
  split_ifs
  all_goals first
    | exact ⟨rfl, rfl, rfl⟩
    | (unfold incrementServiceTimeUsed
       split_ifs <;> exact ⟨rfl, rfl, rfl⟩)

theorem frontTimeAt_tick (s : BundleActivePackageStats) (τ t : ℤ) :
    (s.tick τ).frontTimeAt t = s.frontTimeAt t := by
  rw [(s.sameFront_tick τ).frontTimeAt]
  split_ifs with h
  · exact frontTimeAt_incrementTimeUsed h
  · rfl

theorem totalInFrontTime_tick (h : s.hasFrontAbility = true → s.lastTimeUsed ≤ τ) :
    (s.tick τ).totalInFrontTime = s.frontTimeAt τ := by
  rw [(s.sameFront_tick τ).total]
  split_ifs with hfront
  · rw [incrementTimeUsed_of_le (h hfront), frontTimeAt_of_front hfront]
  · rw [frontTimeAt_of_not_front hfront]

theorem update_of_isTick (he : e.isTick = true) :
    SameFront (s.tick τ) (s.update n τ e a) := by
  rcases isTick_iff.1 he with rfl | rfl | rfl <;> exact ⟨rfl, rfl, rfl⟩

theorem frontTimeAt_update_tick (he : e.isTick = true) :
    (s.update n τ e a).frontTimeAt t = s.frontTimeAt t := by
  rw [(update_of_isTick he).frontTimeAt, frontTimeAt_tick]

theorem totalInFrontTime_update_of_isTick (he : e.isTick = true)
    (h : s.hasFrontAbility = true → s.lastTimeUsed ≤ τ) :
    (s.update n τ e a).totalInFrontTime = s.frontTimeAt τ := by
  rw [(update_of_isTick he).total, totalInFrontTime_tick h]

/-- An update at its own instant moves no time. -/
theorem frontTimeAt_update_of_le (h : s.lastTimeUsed ≤ t) :
    (s.update n t e a).frontTimeAt t = s.frontTimeAt t := by
  rcases update_cases s n t e a with ⟨-, heq⟩ | ⟨-, heq⟩ | ⟨he, -⟩ | ⟨-, -, -, heq⟩
  · exact heq ▸ frontTimeAt_updateAbility h
  · exact heq ▸ sameFront_updateLongTimeTask.frontTimeAt
  · exact frontTimeAt_update_tick he
  · exact heq ▸ rfl

theorem lastTimeUsed_update_le (h : s.lastTimeUsed ≤ t) (hτ : τ ≤ t) :
    (s.update n τ e a).lastTimeUsed ≤ t := by
  have hincrement : ∀ s : BundleActivePackageStats, s.lastTimeUsed ≤ t →
      (s.incrementTimeUsed τ).lastTimeUsed ≤ t := fun s h =>
    (s.incrementTimeUsed_maps τ).2.trans_le (max_le h hτ)
  rcases update_cases s n τ e a with ⟨-, heq⟩ | ⟨-, heq⟩ | ⟨he, -⟩ | ⟨-, -, -, heq⟩
  · rw [heq]
    have hfirst : (s.noteFirstForeground τ e).lastTimeUsed ≤ t :=
      (noteFirstForeground_fields (s := s)).2.1.trans_le h
    have hbook : ((s.noteFirstForeground τ e).bookLastAbilityEvent τ e a).lastTimeUsed ≤ t := by
      unfold bookLastAbilityEvent
      split
      · exact hincrement _ hfirst
      · split_ifs <;> exact hfirst
      · exact hfirst
    change (s.updateAbility τ e a).lastTimeUsed ≤ t
    unfold updateAbility
    split_ifs
    · unfold recordAbilityEvent
      split
      · simp only
        split_ifs
        · exact hbook
        · exact hτ
      all_goals exact hbook
    · exact h
  · exact heq ▸ sameFront_updateLongTimeTask.last.trans_le h
  · rw [(update_of_isTick he).last, (s.sameFront_tick τ).last]
    split_ifs
    · exact hincrement s h
    · exact h
  · exact heq ▸ h

theorem frontTimeAt_update_foreground (h : s.hasFrontAbility = true) :
    (s.update n τ .abilityForeground a).frontTimeAt t = s.frontTimeAt t := by
  obtain ⟨hab, hlast, htotal⟩ :=
    noteFirstForeground_fields (s := s) (t := τ) (e := .abilityForeground)
  set s₁ := s.noteFirstForeground τ .abilityForeground
  have hfront : s₁.hasFrontAbility = true := (hasFrontAbility_congr hab).trans h
  have hbook : (s₁.bookLastAbilityEvent τ .abilityForeground a).frontTimeAt t = s.frontTimeAt t ∧
      (s₁.bookLastAbilityEvent τ .abilityForeground a).hasFrontAbility = true := by
    refine ⟨?_, (hasFrontAbility_congr bookLastAbilityEvent_fields).trans hfront⟩
    rw [← frontTimeAt_congr hab hlast htotal]
    unfold bookLastAbilityEvent
    split
    · exact frontTimeAt_incrementTimeUsed hfront
    · split_ifs <;> rfl
    · rfl
  set s₂ := s₁.bookLastAbilityEvent τ .abilityForeground a
  have hrecord : (s₂.recordAbilityEvent τ .abilityForeground a).hasFrontAbility = true :=
    hasFrontAbility_iff.2 ⟨a, by simp [recordAbilityEvent]⟩
  have hupdate : (s.update n τ .abilityForeground a).frontTimeAt t =
      (s₂.recordAbilityEvent τ .abilityForeground a).frontTimeAt t := rfl
  rw [hupdate, frontTimeAt_of_front hrecord, ← hbook.1, frontTimeAt_of_front hbook.2]
  simp [recordAbilityEvent, hbook.2]

/-- The start of an ability while none is in front opens the time at its stamp. -/
theorem update_foreground_of_not_front (h : ¬ s.hasFrontAbility = true) :
    (s.update n τ .abilityForeground a).totalInFrontTime = s.totalInFrontTime ∧
      (s.update n τ .abilityForeground a).lastTimeUsed = τ := by
  obtain ⟨hab, hlast, htotal⟩ :=
    noteFirstForeground_fields (s := s) (t := τ) (e := .abilityForeground)
  set s₁ := s.noteFirstForeground τ .abilityForeground
  have hfront : ¬ s₁.hasFrontAbility = true := fun h' => h ((hasFrontAbility_congr hab).symm.trans h')
  have hnot : s₁.abilities[a]? ≠ some .abilityForeground := fun ha =>
    hfront (hasFrontAbility_iff.2 ⟨a, ha⟩)
  have hbook := bookLastAbilityEvent_of_not_front (t := τ) (e := .abilityForeground) hnot
  have hfront' : ¬ (s₁.bookLastAbilityEvent τ .abilityForeground a).hasFrontAbility = true := fun h' =>
    hfront ((hasFrontAbility_congr bookLastAbilityEvent_fields).symm.trans h')
  have hupdate : (s.update n τ .abilityForeground a).lastTimeUsed =
      if (s₁.bookLastAbilityEvent τ .abilityForeground a).hasFrontAbility then
        (s₁.bookLastAbilityEvent τ .abilityForeground a).lastTimeUsed else τ := rfl
  exact ⟨hbook.2.trans htotal, hupdate.trans (if_neg hfront')⟩

/-- The counters of an entry at a time. -/
structure Sound (t : ℤ) (s : BundleActivePackageStats) : Prop where
  last : s.lastTimeUsed ≤ t
  front : 0 ≤ s.totalInFrontTime
  task : 0 ≤ s.totalContiniousTaskUsedTime

theorem sound_created (ht : 0 ≤ t) (b : String) (uid endTime : ℤ) :
    Sound t { endTimeStamp := endTime, bundleName := b, uid := uid } :=
  ⟨(show (-1 : ℤ) ≤ 0 by decide).trans ht, le_rfl, le_rfl⟩

theorem Sound.mono (h : s.Sound τ) (ht : τ ≤ t) : s.Sound t := ⟨h.last.trans ht, h.front, h.task⟩

theorem Sound.update (h : s.Sound t) (hτ : τ ≤ t) : (s.update n τ e a).Sound t := by
  have hgrows := s.grows_update n τ e a
  exact ⟨lastTimeUsed_update_le h.last hτ, h.front.trans hgrows.front, h.task.trans hgrows.task⟩

theorem Used.grows {s' : BundleActivePackageStats} (hused : s.Used) (h : s.Sound t)
    (hgrows : Grows s s') : s'.Used := by
  have hfront := hgrows.front
  have htask := hgrows.task
  obtain ⟨-, hfront₀, htask₀⟩ := h
  unfold Used at hused ⊢
  omega

end BundleActivePackageStats

section Entries

open BundleActivePackageStats (Sound sound_created)

variable {k : String} {event : BundleActiveEvent} {launch : Bool}
  {o : Option BundleActivePackageStats} {t : ℤ}

def frontTimeOf (o : Option BundleActivePackageStats) (t : ℤ) : ℤ := o.elim 0 (·.frontTimeAt t)

theorem frontTimeAt_created (b : String) (uid endTime t : ℤ) :
    ({ endTimeStamp := endTime, bundleName := b, uid := uid } :
      BundleActivePackageStats).frontTimeAt t = 0 := by
  simp [BundleActivePackageStats.frontTimeAt, BundleActivePackageStats.hasFrontAbility]

theorem frontTimeOf_updatedEntry (ht : 0 ≤ event.timeStamp)
    (h : ∀ e, o = some e → e.Sound event.timeStamp) :
    frontTimeOf (updatedEntry k event o) event.timeStamp = frontTimeOf o event.timeStamp := by
  unfold updatedEntry
  split_ifs
  · cases o with
    | none => rfl
    | some e => exact BundleActivePackageStats.frontTimeAt_update_of_le (h e rfl).last
  · cases o with
    | none =>
      have hsound := sound_created ht event.bundleName event.uid 0
      exact (BundleActivePackageStats.frontTimeAt_update_of_le hsound.last).trans
        (frontTimeAt_created ..)
    | some e => exact BundleActivePackageStats.frontTimeAt_update_of_le (h e rfl).last
  · rfl

theorem sound_updatedEntry (h0 : 0 ≤ t) (ht : event.timeStamp ≤ t)
    (h : ∀ e, o = some e → e.Sound t) {e : BundleActivePackageStats}
    (he : updatedEntry k event o = some e) : e.Sound t := by
  unfold updatedEntry at he
  split_ifs at he
  · obtain ⟨e₀, ho, rfl⟩ := Option.map_eq_some_iff.1 he
    exact (h e₀ ho).update ht
  · obtain rfl := Option.some.inj he
    cases o with
    | none => exact (sound_created h0 event.bundleName event.uid 0).update ht
    | some e₀ => exact (h e₀ rfl).update ht
  · exact h e he

theorem used_updatedEntry (h : ∀ e, o = some e → e.Sound t) (hused : ∃ e, o = some e ∧ e.Used) :
    ∃ e, updatedEntry k event o = some e ∧ e.Used := by
  obtain ⟨e, rfl, hused⟩ := hused
  have hgrown : ∀ n t ev a, (e.update n t ev a).Used := fun n t ev a =>
    hused.grows (h e rfl) (e.grows_update n t ev a)
  unfold updatedEntry
  split_ifs
  · exact ⟨_, rfl, hgrown _ _ _ _⟩
  · exact ⟨_, rfl, hgrown _ _ _ _⟩
  · exact ⟨e, rfl, hused⟩

/-- A report is an update, but for the launch count. -/
theorem reportedEntry_cases (k : String) (event : BundleActiveEvent) (launch : Bool)
    (o : Option BundleActivePackageStats) :
    reportedEntry k event launch o = o ∨
      reportedEntry k event launch o = updatedEntry k event o ∨
      reportedEntry k event launch o =
        (updatedEntry k event o).map (·.incrementBundleLaunchedCount) := by
  unfold reportedEntry
  split_ifs
  · exact .inl rfl
  · exact .inr (.inr rfl)
  · exact .inr (.inl rfl)

theorem frontTimeOf_reportedEntry (ht : 0 ≤ event.timeStamp)
    (h : ∀ e, o = some e → e.Sound event.timeStamp) :
    frontTimeOf (reportedEntry k event launch o) event.timeStamp =
      frontTimeOf o event.timeStamp := by
  rcases reportedEntry_cases k event launch o with heq | heq | heq <;> rw [heq]
  · exact frontTimeOf_updatedEntry ht h
  · rw [← frontTimeOf_updatedEntry (k := k) ht h]
    cases updatedEntry k event o with
    | none => rfl
    | some e => rfl

theorem sound_reportedEntry (ht : 0 ≤ event.timeStamp)
    (h : ∀ e, o = some e → e.Sound event.timeStamp) {e : BundleActivePackageStats}
    (he : reportedEntry k event launch o = some e) : e.Sound event.timeStamp := by
  rcases reportedEntry_cases k event launch o with heq | heq | heq <;> rw [heq] at he
  · exact h e he
  · exact sound_updatedEntry ht le_rfl h he
  · obtain ⟨e₀, he₀, rfl⟩ := Option.map_eq_some_iff.1 he
    obtain ⟨hlast, hfront, htask⟩ := sound_updatedEntry ht le_rfl h he₀
    exact ⟨hlast, hfront, htask⟩

theorem used_reportedEntry (h : ∀ e, o = some e → e.Sound t)
    (hused : ∃ e, o = some e ∧ e.Used) :
    ∃ e, reportedEntry k event launch o = some e ∧ e.Used := by
  rcases reportedEntry_cases k event launch o with heq | heq | heq <;> rw [heq]
  · exact hused
  · exact used_updatedEntry h hused
  · have hupdated : ∃ e, updatedEntry k event o = some e ∧ e.Used := used_updatedEntry h hused
    obtain ⟨e, he, hused⟩ := hupdated
    exact ⟨e.incrementBundleLaunchedCount, by rw [he, Option.map_some], hused⟩

/-! ### Updates that move no time -/

def frontOf (o : Option BundleActivePackageStats) : Bool := o.any (·.hasFrontAbility)

/-- The time in front is the same at whatever instant it is read. -/
structure SameFrontTime (o o' : Option BundleActivePackageStats) : Prop where
  front : frontOf o' = frontOf o
  time : ∀ t, frontTimeOf o' t = frontTimeOf o t

theorem SameFrontTime.refl (o : Option BundleActivePackageStats) : SameFrontTime o o :=
  ⟨rfl, fun _ => rfl⟩

theorem SameFrontTime.trans {o' o'' : Option BundleActivePackageStats} (h : SameFrontTime o o')
    (h' : SameFrontTime o' o'') : SameFrontTime o o'' :=
  ⟨h'.front.trans h.front, fun t => (h'.time t).trans (h.time t)⟩

theorem frontTimeOf_later (o : Option BundleActivePackageStats) (t t' : ℤ) :
    frontTimeOf o t' = frontTimeOf o t + if frontOf o then t' - t else 0 := by
  cases o with
  | none => rfl
  | some e => exact e.frontTimeAt_later t t'

theorem sameFrontTime_getD (b : String) (uid : ℤ) :
    SameFrontTime o (some (o.getD { bundleName := b, uid := uid })) := by
  cases o with
  | none => exact ⟨rfl, fun t => frontTimeAt_created b uid 0 t⟩
  | some e => exact .refl _

theorem sameFrontTime_of_sameFront {e e' : BundleActivePackageStats}
    (h : BundleActivePackageStats.SameFront e e') : SameFrontTime (some e) (some e') :=
  ⟨BundleActivePackageStats.hasFrontAbility_congr h.abilities, fun _ => h.frontTimeAt⟩

theorem sameFront_update_task {e : BundleActivePackageStats} {ev : EventId}
    (he : ev.isTaskEvent = true) (n : String) (τ : ℤ) (a : String) :
    BundleActivePackageStats.SameFront e (e.update n τ ev a) := by
  have hsame : BundleActivePackageStats.SameFront e (e.updateLongTimeTask n τ ev) :=
    BundleActivePackageStats.sameFront_updateLongTimeTask
  rcases BundleActivePackageStats.isTaskEvent_iff.1 he with rfl | rfl <;>
    exact ⟨hsame.abilities, hsame.last, hsame.total⟩

theorem sameFrontTime_updatedEntry_task (he : event.eventId.isTaskEvent = true) :
    SameFrontTime o (updatedEntry k event o) := by
  have htick : ¬ (event.eventId = .shutdown ∨ event.eventId = .flush) := by
    rintro (h | h) <;> rw [h] at he <;> cases he
  unfold updatedEntry
  rw [if_neg htick]
  split_ifs
  · exact (sameFrontTime_getD event.bundleName event.uid).trans
      (sameFrontTime_of_sameFront (sameFront_update_task he ..))
  · exact .refl o

theorem frontOf_update_foreground (e : BundleActivePackageStats) (n : String) (τ : ℤ) (a : String) :
    frontOf (some (e.update n τ .abilityForeground a)) = true := by
  refine BundleActivePackageStats.hasFrontAbility_iff.2 ⟨a, ?_⟩
  rw [BundleActivePackageStats.getElem?_abilities_update]
  simp [EventId.isAppStateEvent]

theorem sameFrontTime_updatedEntry_foreground (he : event.eventId = .abilityForeground)
    (h : getBundleUsageKey event.bundleName event.uid = k → frontOf o = true) :
    SameFrontTime o (updatedEntry k event o) := by
  unfold updatedEntry
  rw [if_neg (by rw [he]; decide), he]
  split_ifs with hown
  · cases o with
    | none => cases h hown.2
    | some e =>
      refine ⟨(frontOf_update_foreground e ..).trans (h hown.2).symm, fun t => ?_⟩
      exact BundleActivePackageStats.frontTimeAt_update_foreground (h hown.2)
  · exact .refl o

theorem sameFrontTime_map_tick {ev : EventId} (he : ev.isTick = true) (n : String) (τ : ℤ)
    (a : String) : SameFrontTime o (o.map (·.update n τ ev a)) := by
  cases o with
  | none => exact .refl none
  | some e =>
    refine ⟨?_, fun t => BundleActivePackageStats.frontTimeAt_update_tick he⟩
    refine BundleActivePackageStats.hasFrontAbility_congr ?_
    exact (BundleActivePackageStats.update_of_isTick he).abilities.trans
      BundleActivePackageStats.tick_maps.1

/-! ### A new period -/

/-- The entry of a period that began at `t` with every running session started again. -/
structure StartedAt (t : ℤ) (o : Option BundleActivePackageStats) : Prop where
  time : ∀ t', frontTimeOf o t' = if frontOf o then t' - t else 0
  sound : ∀ e, o = some e → e.Sound (if frontOf o then t else -1)

theorem StartedAt.task (h : StartedAt t o) (he : event.eventId.isTaskEvent = true) :
    StartedAt t (updatedEntry k event o) := by
  have hsame : SameFrontTime o (updatedEntry k event o) := sameFrontTime_updatedEntry_task he
  refine ⟨fun t' => by rw [hsame.time, h.time, hsame.front], fun e hk => ?_⟩
  rw [hsame.front]
  unfold updatedEntry at hk
  split_ifs at hk with htick
  · rcases htick with h | h <;> rw [h] at he <;> cases he
  · obtain rfl := Option.some.inj hk
    have hsound : (o.getD { bundleName := event.bundleName, uid := event.uid }).Sound
        (if frontOf o then t else -1) := by
      cases o with
      | none => exact ⟨le_rfl, le_rfl, le_rfl⟩
      | some e => exact h.sound e rfl
    have hgrows := (o.getD { bundleName := event.bundleName, uid := event.uid }).grows_update
      event.continuousTaskAbilityName event.timeStamp event.eventId event.abilityId
    refine ⟨?_, hsound.front.trans hgrows.front, hsound.task.trans hgrows.task⟩
    rw [(sameFront_update_task he ..).last]
    exact hsound.last
  · exact h.sound e hk

theorem StartedAt.foreground (h : StartedAt t o) (he : event.eventId = .abilityForeground)
    (ht : event.timeStamp = t) : StartedAt t (updatedEntry k event o) := by
  unfold updatedEntry
  rw [if_neg (by rw [he]; decide), he, ht]
  split_ifs with hown
  · set e := o.getD { bundleName := event.bundleName, uid := event.uid } with he₀
    set n := event.continuousTaskAbilityName
    set a := event.abilityId
    have hsame : SameFrontTime o (some e) := sameFrontTime_getD event.bundleName event.uid
    have hfront := frontOf_update_foreground e n t a
    have hsound : e.Sound (if frontOf o then t else -1) := by
      rw [he₀]
      cases o with
      | none => exact ⟨le_rfl, le_rfl, le_rfl⟩
      | some e => exact h.sound e rfl
    have hgrows := e.grows_update n t .abilityForeground a
    by_cases hrun : e.hasFrontAbility = true
    · have hrun' : frontOf o = true := hsame.front.symm.trans hrun
      refine ⟨fun t' => ?_, fun e' he' => ?_⟩
      · rw [if_pos hfront]
        refine (BundleActivePackageStats.frontTimeAt_update_foreground hrun).trans ?_
        refine (hsame.time t').trans ((h.time t').trans (if_pos hrun'))
      · obtain rfl := Option.some.inj he'
        rw [if_pos hrun'] at hsound
        rw [if_pos hfront]
        exact hsound.update le_rfl
    · obtain ⟨htotal, hlast⟩ :=
        BundleActivePackageStats.update_foreground_of_not_front (n := n) (a := a) (τ := t) hrun
      have hzero : e.totalInFrontTime = 0 := by
        rw [← BundleActivePackageStats.frontTimeAt_of_not_front (t := t) hrun]
        refine (hsame.time t).trans ((h.time t).trans (if_neg fun h' => hrun ?_))
        exact hsame.front.trans h'
      refine ⟨fun t' => ?_, fun e' he' => ?_⟩
      · rw [if_pos hfront]
        refine (BundleActivePackageStats.frontTimeAt_of_front hfront).trans ?_
        rw [htotal, hlast, hzero, zero_add]
      · obtain rfl := Option.some.inj he'
        rw [if_pos hfront]
        exact ⟨hlast.le, hsound.front.trans hgrows.front, hsound.task.trans hgrows.task⟩
  · exact h

end Entries

namespace ServiceState

open BundleActivePackageStats (Sound)

variable (tz : TimeZone) {s s' : ServiceState} {k : String} {i j : IntervalType} {t : ℤ}

/-! ### The capture -/

def dayEnd (e : BundleActivePackageStats) (t : ℤ) : BundleActiveEvent :=
  { bundleName := e.bundleName, eventId := .endOfTheDay, timeStamp := t, uid := e.uid }

theorem entryOf_foldl_flushEntry (i j : IntervalType) (k : String)
    (l : List BundleActivePackageStats) (cs : ContinueStats × ServiceState) :
    (l.foldl (flushEntry i) cs).2.entryOf k j =
      if j = i then (l.filter fun e => getBundleUsageKey e.bundleName e.uid = k).foldl
        (fun o e => updatedEntry k (dayEnd e (cs.2.dailyExpiryDate.time - 1)) o) (cs.2.entryOf k j)
      else cs.2.entryOf k j := by
  induction l generalizing cs with
  | nil => rw [List.filter_nil, List.foldl_nil, List.foldl_nil, ite_self]
  | cons e l ih =>
    have hexpiry : (flushEntry i cs e).2.dailyExpiryDate = cs.2.dailyExpiryDate :=
      (memoryOnly_notifyStatsChanged _).expiry.trans (memoryOnly_updateStats ..).expiry
    have hentry : (flushEntry i cs e).2.entryOf k j =
        if j = i then updatedEntry k (dayEnd e (cs.2.dailyExpiryDate.time - 1)) (cs.2.entryOf k j)
        else cs.2.entryOf k j :=
      (entryOf_notifyStatsChanged _ k j).trans (entryOf_updateStats cs.2 (dayEnd e _) i j k)
    rw [List.foldl_cons, ih, hexpiry, hentry]
    split_ifs with hj
    · by_cases hk : getBundleUsageKey e.bundleName e.uid = k
      · rw [List.filter_cons_of_pos (by simpa using hk), List.foldl_cons]
      · rw [List.filter_cons_of_neg (by simpa using hk), updatedEntry_of_ne _ hk]
        rintro (h | h) <;> cases h
    · rfl

/-- The entries under a key. -/
theorem filter_entries {m : Std.TreeMap String BundleActivePackageStats} (keyed : Keyed m)
    (k : String) : ((m.toList.map Prod.snd).filter fun e =>
      getBundleUsageKey e.bundleName e.uid = k) = (m[k]?).toList := by
  rw [← Entries.map_filter_toList m k, List.filter_map]
  congr 1
  refine List.filter_congr fun p hp => ?_
  have hp := Std.TreeMap.mem_toList_iff_getElem?_eq_some.1 hp
  rw [Function.comp_apply, keyed p.1 p.2 hp]

theorem flushDataInMemOf_snd (cs : ContinueStats × ServiceState) (i : IntervalType) :
    (flushDataInMemOf cs i).2 =
      (((cs.2.currentStats i).bundleStats.toList.map Prod.snd).foldl (flushEntry i) cs).2.setStats i
        (((((cs.2.currentStats i).bundleStats.toList.map Prod.snd).foldl
          (flushEntry i) cs).2.currentStats i).commitTime
            ((((cs.2.currentStats i).bundleStats.toList.map Prod.snd).foldl
              (flushEntry i) cs).2.dailyExpiryDate.time - 1)) :=
  rfl

/-- The capture is one tick of every daily entry. -/
theorem entryOf_flushDataInMem (keyed : Keyed (s.currentStats .daily).bundleStats) (k : String) :
    s.flushDataInMem.2.entryOf k .daily =
      (s.entryOf k .daily).map (·.update "" (s.dailyExpiryDate.time - 1) .endOfTheDay "") := by
  have hround : ∀ (cs : ContinueStats × ServiceState) i, i ≠ .daily →
      (flushDataInMemOf cs i).2.entryOf k .daily = cs.2.entryOf k .daily := by
    intro cs i hi
    rw [flushDataInMemOf_snd, entryOf_setStats, if_neg hi.symm, entryOf_foldl_flushEntry,
      if_neg hi.symm]
  have hdaily : (flushDataInMemOf ({}, s) .daily).2.entryOf k .daily =
      (s.entryOf k .daily).map (·.update "" (s.dailyExpiryDate.time - 1) .endOfTheDay "") := by
    have hfold := entryOf_foldl_flushEntry .daily .daily k
      ((s.currentStats .daily).bundleStats.toList.map Prod.snd) ({}, s)
    rw [if_pos rfl, filter_entries keyed] at hfold
    rw [flushDataInMemOf_snd, entryOf_setStats, if_pos rfl]
    refine hfold.trans ?_
    unfold entryOf
    cases hk : (s.currentStats .daily).bundleStats[k]? with
    | none => rfl
    | some e =>
      have hkey := keyed k e hk
      simp [updatedEntry, dayEnd, EventId.isBundleEvent, hkey]
  unfold flushDataInMem IntervalType.all
  rw [List.foldl_cons, List.foldl_cons, List.foldl_cons, List.foldl_cons, List.foldl_nil]
  rw [hround _ .yearly (by decide), hround _ .monthly (by decide), hround _ .weekly (by decide),
    hdaily]

/-! ### The replay -/

/-- A property that the restart of a captured session keeps. -/
structure KeptByReplay (c : ContinueStats) (t : ℤ) (P : ServiceState → Prop) : Prop where
  ability : ∀ {s} i n u a, Captured c (getBundleUsageKey n u) (.ability a) → P s →
    P (updateStats i n "" t .abilityForeground a u s)
  task : ∀ {s} i n u m, P s → P (updateStats i n m t .longTimeTaskStartted "" u s)

namespace KeptByReplay

variable {c : ContinueStats} {P : ServiceState → Prop} (kept : KeptByReplay c t P)
  (captured : StatesCaptured c)
include kept captured

theorem updateContinueAbilitiesMemory (n : String) (i : IntervalType) (h : P s) :
    P (updateContinueAbilitiesMemory t c n i s) := by
  unfold ServiceState.updateContinueAbilitiesMemory
  rw [continueAbilitiesOfUids_eq]
  refine List.foldlRecOn _ _ h fun s h u _ => List.foldlRecOn _ _ h fun s h p hp => ?_
  cases hm : c.continueAbilities[getBundleUsageKey n u]? with
  | none =>
    rw [hm, Option.getD_none] at hp
    have hp := Std.TreeMap.mem_toList_iff_getElem?_eq_some.1 hp
    simp at hp
  | some m =>
    rw [hm, Option.getD_some] at hp
    have hstate := Std.TreeMap.mem_toList_iff_getElem?_eq_some.1 hp
    rcases captured.abilities _ m hm p hp with he | he
    · rw [he] at hstate
      rw [if_neg (by rw [he]; decide), he]
      exact kept.ability i n u p.1 ⟨m, hm, hstate⟩ h
    · rw [if_pos he]
      exact h

theorem updateContinueServicesMemory (n : String) (i : IntervalType) (h : P s) :
    P (updateContinueServicesMemory t c n i s) := by
  unfold ServiceState.updateContinueServicesMemory
  rw [continueServicesOfUids_eq]
  refine List.foldlRecOn _ _ h fun s h u _ => List.foldlRecOn _ _ h fun s h p hp => ?_
  cases hm : c.continueServices[getBundleUsageKey n u]? with
  | none =>
    rw [hm, Option.getD_none] at hp
    have hp := Std.TreeMap.mem_toList_iff_getElem?_eq_some.1 hp
    simp at hp
  | some m =>
    rw [hm, Option.getD_some] at hp
    rw [captured.services _ m hm p hp]
    exact kept.task i n u p.1 h

/-- The whole replay; its stamp is the start of the daily period, which stays. -/
theorem continueBundles (h : P s) (hbegin : (s.currentStats .daily).beginTime = t) :
    P (c.continueBundles.toList.foldl (continueBundle c) s) := by
  have hloop : P (c.continueBundles.toList.foldl (continueBundle c) s) ∧
      MemoryOnly s (c.continueBundles.toList.foldl (continueBundle c) s) := by
    refine List.foldlRecOn _ _ (motive := fun s' => P s' ∧ MemoryOnly s s') ⟨h, .refl s⟩
      fun s' h n _ => ⟨?_, ?_⟩
    · unfold ServiceState.continueBundle
      rw [h.2.begins, hbegin]
      exact List.foldlRecOn _ _ h.1 fun s₁ h i _ =>
        kept.updateContinueServicesMemory captured n i
          (kept.updateContinueAbilitiesMemory captured n i h)
    · exact (keptInMemory_memoryOnly s).toKeptByStats.continueBundle c n h.2
  exact hloop.1

end KeptByReplay

/-! ### The replay of one bundle -/

theorem frontOf_iff : frontOf (s.entryOf k i) = true ↔
    ∃ a, (s.currentStats i).Runs k (.ability a) := by
  unfold frontOf entryOf BundleActivePeriodStats.Runs
  cases hk : (s.currentStats i).bundleStats[k]? with
  | none => simp
  | some e =>
    rw [Option.any_some, BundleActivePackageStats.hasFrontAbility_iff]
    simp [BundleActivePackageStats.Runs]

def restart (n m : String) (t : ℤ) (ev : EventId) (a : String) (u : ℤ) : BundleActiveEvent :=
  { bundleName := n, continuousTaskAbilityName := m, timeStamp := t, eventId := ev, abilityId := a
    uid := u }

variable {c : ContinueStats}

theorem keptByReplay_started (c : ContinueStats) (t : ℤ) (k : String) :
    KeptByReplay c t fun s => StartedAt t (s.entryOf k .daily) where
  ability {s} i n u a _ h := by
    have hentry := entryOf_updateStats s (restart n "" t .abilityForeground a u) i .daily k
    rw [restart] at hentry
    rw [hentry]
    split_ifs
    · exact h.foreground rfl rfl
    · exact h
  task {s} i n u m h := by
    have hentry := entryOf_updateStats s (restart n m t .longTimeTaskStartted "" u) i .daily k
    rw [restart] at hentry
    rw [hentry]
    split_ifs
    · exact h.task rfl
    · exact h

/-- An entry that stays where it was while its sessions run on. -/
structure RunsOn (c : ContinueStats) (b : ℤ) (k : String) (o : Option BundleActivePackageStats)
    (s : ServiceState) : Prop where
  same : SameFrontTime o (s.entryOf k .daily)
  sound : ∀ e, s.entryOf k .daily = some e → e.Sound b
  used : (∃ e, o = some e ∧ e.Used) → ∃ e, s.entryOf k .daily = some e ∧ e.Used
  runs : ∀ a, Captured c k (.ability a) → (s.currentStats .daily).Runs k (.ability a)

theorem RunsOn.updateStats {b : ℤ} {o : Option BundleActivePackageStats} (h : RunsOn c b k o s)
    (hb : 0 ≤ b) (event : BundleActiveEvent) (ht : event.timeStamp ≤ b)
    (same : SameFrontTime (s.entryOf k .daily) (updatedEntry k event (s.entryOf k .daily)))
    (ended : ∀ x, ¬ Session.Ended event.eventId event.continuousTaskAbilityName event.abilityId x)
    (i : IntervalType) :
    RunsOn c b k o (ServiceState.updateStats i event.bundleName event.continuousTaskAbilityName
      event.timeStamp event.eventId event.abilityId event.uid s) := by
  have hentry := entryOf_updateStats s event i .daily k
  refine ⟨?_, ?_, fun hused => ?_, fun a ha => ?_⟩
  · rw [hentry]
    split_ifs
    · exact h.same.trans same
    · exact h.same
  · rw [hentry]
    split_ifs
    · exact fun e he => sound_updatedEntry hb ht h.sound he
    · exact h.sound
  · rw [hentry]
    split_ifs
    · exact used_updatedEntry h.sound (h.used hused)
    · exact h.used hused
  · by_cases hi : i = .daily
    · subst hi
      rw [runs_updateStats]
      exact .inr ⟨h.runs a ha, fun h' => ended _ h'.2⟩
    · rw [currentStats_updateStats_of_ne (Ne.symm hi)]
      exact h.runs a ha

theorem keptByReplay_runsOn (c : ContinueStats) {t b : ℤ} (hb : 0 ≤ b) (ht : t ≤ b) (k : String)
    (o : Option BundleActivePackageStats) : KeptByReplay c t (RunsOn c b k o) where
  ability {s} i n u a hcaptured h := by
    refine h.updateStats hb (restart n "" t .abilityForeground a u) ht
      (sameFrontTime_updatedEntry_foreground rfl fun hkey => ?_) (fun x hx => ?_) i
    · obtain rfl : getBundleUsageKey n u = k := hkey
      exact frontOf_iff.2 ⟨a, h.runs a hcaptured⟩
    · cases x with
      | ability _ => obtain ⟨hx | hx, -⟩ := hx <;> cases hx
      | task _ => cases hx.1
  task {s} i n u m h := by
    refine h.updateStats hb (restart n m t .longTimeTaskStartted "" u) ht
      (sameFrontTime_updatedEntry_task rfl) (fun x hx => ?_) i
    cases x with
    | ability _ => obtain ⟨hx | hx, -⟩ := hx <;> cases hx
    | task _ => cases hx.1

end ServiceState
end DeviceUsageStats
