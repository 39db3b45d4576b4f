import DeviceUsageStats.Spec.PackageStats

/-! What one `Update` does to the counters of a bundle. The sum of what is booked and of what is
still open, `frontTimeAt` and `taskTimeAt`, is unchanged by an update at the instant it is read:
the running stamp may be re-based at any transition without losing or repeating time. -/

namespace DeviceUsageStats
namespace BundleActivePackageStats

variable {s : BundleActivePackageStats} {n a : String} {t : ℤ} {e : EventId}

theorem isAppStateEvent_iff : e.isAppStateEvent = true ↔
    e = .abilityForeground ∨ e = .abilityBackground ∨ e = .abilityStop := by
  cases e <;> simp [EventId.isAppStateEvent]

theorem isTaskEvent_iff : e.isTaskEvent = true ↔
    e = .longTimeTaskStartted ∨ e = .longTimeTaskEnded := by
  cases e <;> simp [EventId.isTaskEvent]

theorem isTick_iff : e.isTick = true ↔ e = .endOfTheDay ∨ e = .shutdown ∨ e = .flush := by
  cases e <;> simp [EventId.isTick]

theorem hasFrontAbility_iff :
    s.hasFrontAbility = true ↔ ∃ a : String, s.abilities[a]? = some EventId.abilityForeground := by
  simp only [hasFrontAbility, List.any_eq_true, beq_iff_eq]
  constructor
  · rintro ⟨⟨a, v⟩, hmem, rfl⟩
    exact ⟨a, Std.TreeMap.mem_toList_iff_getElem?_eq_some.1 hmem⟩
  · rintro ⟨a, ha⟩
    exact ⟨(a, .abilityForeground), Std.TreeMap.mem_toList_iff_getElem?_eq_some.2 ha, rfl⟩

theorem anyLongTimeTaskStarted_iff :
    s.anyLongTimeTaskStarted = true ↔ ∃ n : String, (s.longTimeTasks[n]?).isSome := by
  rw [anyLongTimeTaskStarted, Bool.not_eq_true', Std.TreeMap.isEmpty_eq_false_iff_exists_mem]
  simp only [Std.TreeMap.isSome_getElem?_iff_mem]

theorem hasFrontAbility_congr {s' : BundleActivePackageStats} (h : s'.abilities = s.abilities) :
    s'.hasFrontAbility = s.hasFrontAbility := by
  rw [hasFrontAbility, hasFrontAbility, h]

theorem anyLongTimeTaskStarted_congr {s' : BundleActivePackageStats}
    (h : s'.longTimeTasks = s.longTimeTasks) :
    s'.anyLongTimeTaskStarted = s.anyLongTimeTaskStarted := by
  rw [anyLongTimeTaskStarted, anyLongTimeTaskStarted, h]

/-- The time in front booked so far, and the open part up to `t`. -/
def frontTimeAt (s : BundleActivePackageStats) (t : ℤ) : ℤ :=
  s.totalInFrontTime + if s.hasFrontAbility then t - s.lastTimeUsed else 0

def taskTimeAt (s : BundleActivePackageStats) (t : ℤ) : ℤ :=
  s.totalContiniousTaskUsedTime +
    if s.anyLongTimeTaskStarted then t - s.lastContiniousTaskUsed else 0

theorem frontTimeAt_of_front (h : s.hasFrontAbility = true) :
    s.frontTimeAt t = s.totalInFrontTime + (t - s.lastTimeUsed) := by
  rw [frontTimeAt, if_pos h]

theorem frontTimeAt_of_not_front (h : ¬ s.hasFrontAbility = true) :
    s.frontTimeAt t = s.totalInFrontTime := by
  rw [frontTimeAt, if_neg h, add_zero]

theorem frontTimeAt_congr {s' : BundleActivePackageStats} (h : s'.abilities = s.abilities)
    (hlast : s'.lastTimeUsed = s.lastTimeUsed)
    (htotal : s'.totalInFrontTime = s.totalInFrontTime) : s'.frontTimeAt t = s.frontTimeAt t := by
  rw [frontTimeAt, frontTimeAt, hlast, htotal, hasFrontAbility_congr h]

/-- The running stamps are not ahead of the clock. -/
structure StampsBefore (s : BundleActivePackageStats) (t : ℤ) : Prop where
  front : s.lastTimeUsed ≤ t
  task : s.lastContiniousTaskUsed ≤ t

theorem StampsBefore.mono {t' : ℤ} (h : s.StampsBefore t) (ht : t ≤ t') : s.StampsBefore t' :=
  ⟨h.front.trans ht, h.task.trans ht⟩

theorem incrementTimeUsed_of_le (h : s.lastTimeUsed ≤ t) :
    s.incrementTimeUsed t =
      { s with
        totalInFrontTime := s.totalInFrontTime + (t - s.lastTimeUsed)
        lastTimeUsed := t } := by
  unfold incrementTimeUsed
  split_ifs with hlt
  · rfl
  · obtain rfl : s.lastTimeUsed = t := le_antisymm h (not_lt.1 hlt)
    simp

theorem incrementServiceTimeUsed_of_le (h : s.lastContiniousTaskUsed ≤ t) :
    s.incrementServiceTimeUsed t =
      { s with
        totalContiniousTaskUsedTime :=
          s.totalContiniousTaskUsedTime + (t - s.lastContiniousTaskUsed)
        lastContiniousTaskUsed := t } := by
  unfold incrementServiceTimeUsed
  split_ifs with hlt
  · rfl
  · obtain rfl : s.lastContiniousTaskUsed = t := le_antisymm h (not_lt.1 hlt)
    simp

/-! ### Abilities -/

theorem noteFirstForeground_fields :
    (s.noteFirstForeground t e).abilities = s.abilities ∧
      (s.noteFirstForeground t e).lastTimeUsed = s.lastTimeUsed ∧
      (s.noteFirstForeground t e).totalInFrontTime = s.totalInFrontTime := by
  unfold noteFirstForeground
  split_ifs <;> exact ⟨rfl, rfl, rfl⟩

theorem bookLastAbilityEvent_fields :
    (s.bookLastAbilityEvent t e a).abilities = s.abilities := by
  unfold bookLastAbilityEvent incrementTimeUsed
  split <;> (try split_ifs) <;> rfl

theorem bookLastAbilityEvent_of_front (h : s.lastTimeUsed ≤ t)
    (ha : s.abilities[a]? = some .abilityForeground) :
    s.bookLastAbilityEvent t e a =
      { s with
        totalInFrontTime := s.totalInFrontTime + (t - s.lastTimeUsed)
        lastTimeUsed := t } := by
  simp only [bookLastAbilityEvent, ha, incrementTimeUsed_of_le h]

theorem bookLastAbilityEvent_of_not_front (ha : s.abilities[a]? ≠ some .abilityForeground) :
    (s.bookLastAbilityEvent t e a).lastTimeUsed = s.lastTimeUsed ∧
      (s.bookLastAbilityEvent t e a).totalInFrontTime = s.totalInFrontTime := by
  unfold bookLastAbilityEvent
  split
  · contradiction
  · split_ifs <;> exact ⟨rfl, rfl⟩
  · exact ⟨rfl, rfl⟩

theorem bookLastAbilityEvent_lastTimeUsed (h : s.lastTimeUsed ≤ t) :
    (s.bookLastAbilityEvent t e a).lastTimeUsed =
      if s.abilities[a]? = some .abilityForeground then t else s.lastTimeUsed := by
  by_cases ha : s.abilities[a]? = some .abilityForeground
  · rw [bookLastAbilityEvent_of_front h ha, if_pos ha]
  · rw [(bookLastAbilityEvent_of_not_front ha).1, if_neg ha]

theorem frontTimeAt_bookLastAbilityEvent (h : s.lastTimeUsed ≤ t) :
    (s.bookLastAbilityEvent t e a).frontTimeAt t = s.frontTimeAt t := by
  by_cases ha : s.abilities[a]? = some .abilityForeground
  · have hfront : s.hasFrontAbility = true := hasFrontAbility_iff.2 ⟨a, ha⟩
    rw [hasFrontAbility] at hfront
    rw [bookLastAbilityEvent_of_front h ha]
    simp only [frontTimeAt, hasFrontAbility, hfront, if_true]
    ring
  · obtain ⟨hlast, htotal⟩ := bookLastAbilityEvent_of_not_front (t := t) (e := e) ha
    rw [frontTimeAt, frontTimeAt, hlast, htotal,
      hasFrontAbility_congr bookLastAbilityEvent_fields]

theorem hasFrontAbility_insert {m : Std.TreeMap String EventId} (v : EventId) :
    { s with abilities := m.insert a v }.hasFrontAbility = true ↔
      v = .abilityForeground ∨ ∃ b : String, b ≠ a ∧ m[b]? = some EventId.abilityForeground := by
  rw [hasFrontAbility_iff]
  simp only [Std.TreeMap.getElem?_insert, Std.LawfulEqCmp.compare_eq_iff_eq]
  constructor
  · rintro ⟨b, hb⟩
    split_ifs at hb with hab
    · exact Or.inl (Option.some.inj hb)
    · exact Or.inr ⟨b, Ne.symm hab, hb⟩
  · rintro (rfl | ⟨b, hab, hb⟩)
    · exact ⟨a, by simp⟩
    · exact ⟨b, by rw [if_neg hab.symm]; exact hb⟩

theorem hasFrontAbility_erase {m : Std.TreeMap String EventId} :
    { s with abilities := m.erase a }.hasFrontAbility = true ↔
      ∃ b : String, b ≠ a ∧ m[b]? = some EventId.abilityForeground := by
  rw [hasFrontAbility_iff]
  simp only [Std.TreeMap.getElem?_erase, Std.LawfulEqCmp.compare_eq_iff_eq]
  constructor
  · rintro ⟨b, hb⟩
    split_ifs at hb with hab
    exact ⟨b, Ne.symm hab, hb⟩
  · rintro ⟨b, hab, hb⟩
    exact ⟨b, by rw [if_neg hab.symm]; exact hb⟩

/-- The event itself books nothing: it opens a stamp only if no ability was in front, and closes
one only after the book keeping has brought it to `t`. -/
theorem frontTimeAt_recordAbilityEvent
    (ha : s.abilities[a]? = some .abilityForeground → s.lastTimeUsed = t) :
    (s.recordAbilityEvent t e a).frontTimeAt t = s.frontTimeAt t := by
  have hclosed : ∀ m : BundleActivePackageStats, m.totalInFrontTime = s.totalInFrontTime →
      m.lastTimeUsed = s.lastTimeUsed →
      (m.hasFrontAbility = true ↔ ∃ b : String, b ≠ a ∧
        s.abilities[b]? = some EventId.abilityForeground) → m.frontTimeAt t = s.frontTimeAt t := by
    intro m htotal hlast hfront
    rw [frontTimeAt, frontTimeAt, htotal, hlast]
    by_cases hin : s.abilities[a]? = some .abilityForeground
    · rw [ha hin]
      simp
    · congr 2
      rw [hfront, hasFrontAbility_iff]
      refine propext ⟨fun ⟨b, _, hb⟩ => ⟨b, hb⟩, fun ⟨b, hb⟩ => ⟨b, ?_, hb⟩⟩
      rintro rfl
      exact hin hb
  cases e with
  | abilityForeground =>
    have hfront : (s.recordAbilityEvent t .abilityForeground a).hasFrontAbility = true :=
      hasFrontAbility_iff.2 ⟨a, by simp [recordAbilityEvent]⟩
    rw [frontTimeAt_of_front hfront]
    by_cases h : s.hasFrontAbility = true
    · rw [frontTimeAt_of_front h]
      simp [recordAbilityEvent, h]
    · rw [frontTimeAt_of_not_front h]
      simp [recordAbilityEvent, h]
  | abilityBackground =>
    refine hclosed _ rfl rfl ?_
    have := hasFrontAbility_insert (s := s) (a := a) (m := s.abilities) .abilityBackground
    simpa [recordAbilityEvent] using this
  | abilityStop => exact hclosed _ rfl rfl hasFrontAbility_erase
  | _ => rfl

theorem recordAbilityEvent_lastTimeUsed_le (h : s.lastTimeUsed ≤ t) :
    (s.recordAbilityEvent t e a).lastTimeUsed ≤ t := by
  unfold recordAbilityEvent
  split
  · simp only
    split_ifs
    · exact h
    · exact le_rfl
  all_goals exact h

theorem frontTimeAt_updateAbility (h : s.lastTimeUsed ≤ t) :
    (s.updateAbility t e a).frontTimeAt t = s.frontTimeAt t := by
  unfold updateAbility
  split_ifs
  · obtain ⟨hab, hlast, htotal⟩ := noteFirstForeground_fields (s := s) (t := t) (e := e)
    have h' : (s.noteFirstForeground t e).lastTimeUsed ≤ t := hlast.trans_le h
    rw [frontTimeAt_recordAbilityEvent, frontTimeAt_bookLastAbilityEvent h',
      frontTimeAt_congr hab hlast htotal]
    rw [bookLastAbilityEvent_fields, bookLastAbilityEvent_lastTimeUsed h']
    exact fun ha => if_pos ha
  · rfl

theorem updateAbility_lastTimeUsed_le (h : s.lastTimeUsed ≤ t) :
    (s.updateAbility t e a).lastTimeUsed ≤ t := by
  unfold updateAbility
  split_ifs
  · have h' : (s.noteFirstForeground t e).lastTimeUsed ≤ t :=
      (noteFirstForeground_fields (s := s)).2.1.trans_le h
    refine recordAbilityEvent_lastTimeUsed_le ?_
    rw [bookLastAbilityEvent_lastTimeUsed h']
    split_ifs
    · exact le_rfl
    · exact h'
  · exact h

/-- An event of an ability in front, or the one that brings a bundle to the front, leaves nothing open. -/
theorem updateAbility_lastTimeUsed_eq (h : s.lastTimeUsed ≤ t) (he : e.isAppStateEvent = true)
    (hs : s.abilities[a]? = some .abilityForeground ∨ ¬ s.hasFrontAbility = true)
    (hfront : (s.updateAbility t e a).hasFrontAbility = true) :
    (s.updateAbility t e a).lastTimeUsed = t := by
  obtain ⟨hab, hlast, -⟩ := noteFirstForeground_fields (s := s) (t := t) (e := e)
  rw [updateAbility, if_pos he] at hfront ⊢
  have hbooked : ((s.noteFirstForeground t e).bookLastAbilityEvent t e a).abilities = s.abilities :=
    bookLastAbilityEvent_fields.trans hab
  have htime := bookLastAbilityEvent_lastTimeUsed (e := e) (a := a) (hlast.trans_le h)
  rw [hab, hlast] at htime
  generalize (s.noteFirstForeground t e).bookLastAbilityEvent t e a = m at hbooked htime hfront ⊢
  rcases hs with hin | hout
  · rw [if_pos hin] at htime
    unfold recordAbilityEvent
    split
    · simp only
      split_ifs
      · exact htime
      · rfl
    all_goals exact htime
  · have hm : ¬ m.hasFrontAbility = true := by
      rwa [hasFrontAbility_congr hbooked]
    rw [hasFrontAbility_iff] at hm
    rcases isAppStateEvent_iff.1 he with rfl | rfl | rfl
    · simp only [recordAbilityEvent, ite_eq_right_iff]
      exact fun hfront => absurd (hasFrontAbility_iff.1 hfront) hm
    · refine absurd ((hasFrontAbility_insert _).1 hfront) ?_
      rintro (hne | ⟨b, -, hb⟩)
      · cases hne
      · exact hm ⟨b, hb⟩
    · obtain ⟨b, -, hb⟩ := hasFrontAbility_erase.1 hfront
      exact absurd ⟨b, hb⟩ hm

/-! ### Long-time tasks -/

/-- The task map holds started tasks only: `LONG_TIME_TASK_ENDED` erases its entry. -/
def TasksStarted (s : BundleActivePackageStats) : Prop :=
  ∀ (n : String) v, s.longTimeTasks[n]? = some v → v = EventId.longTimeTaskStartted

theorem taskTimeAt_of_running (h : s.anyLongTimeTaskStarted = true) :
    s.taskTimeAt t = s.totalContiniousTaskUsedTime + (t - s.lastContiniousTaskUsed) := by
  rw [taskTimeAt, if_pos h]

theorem taskTimeAt_of_not_running (h : ¬ s.anyLongTimeTaskStarted = true) :
    s.taskTimeAt t = s.totalContiniousTaskUsedTime := by
  rw [taskTimeAt, if_neg h, add_zero]

theorem taskTimeAt_congr {s' : BundleActivePackageStats} (h : s'.longTimeTasks = s.longTimeTasks)
    (hlast : s'.lastContiniousTaskUsed = s.lastContiniousTaskUsed)
    (htotal : s'.totalContiniousTaskUsedTime = s.totalContiniousTaskUsedTime) :
    s'.taskTimeAt t = s.taskTimeAt t := by
  rw [taskTimeAt, taskTimeAt, hlast, htotal, anyLongTimeTaskStarted_congr h]

theorem bookLastTaskEvent_of_known (hs : s.TasksStarted) (h : s.lastContiniousTaskUsed ≤ t)
    (hn : (s.longTimeTasks[n]?).isSome) :
    s.bookLastTaskEvent n t =
      { s with
        totalContiniousTaskUsedTime :=
          s.totalContiniousTaskUsedTime + (t - s.lastContiniousTaskUsed)
        lastContiniousTaskUsed := t } := by
  obtain ⟨v, hv⟩ := Option.isSome_iff_exists.1 hn
  obtain rfl := hs n v hv
  simp only [bookLastTaskEvent, hv, incrementServiceTimeUsed_of_le h]

theorem bookLastTaskEvent_of_unknown (hn : ¬ (s.longTimeTasks[n]?).isSome) :
    s.bookLastTaskEvent n t = s := by
  rw [Option.not_isSome_iff_eq_none] at hn
  simp only [bookLastTaskEvent, hn]

theorem bookLastTaskEvent_longTimeTasks :
    (s.bookLastTaskEvent n t).longTimeTasks = s.longTimeTasks := by
  unfold bookLastTaskEvent incrementServiceTimeUsed
  split <;> (try split_ifs) <;> rfl

theorem taskTimeAt_bookLastTaskEvent (hs : s.TasksStarted) (h : s.lastContiniousTaskUsed ≤ t) :
    (s.bookLastTaskEvent n t).taskTimeAt t = s.taskTimeAt t := by
  by_cases hn : (s.longTimeTasks[n]?).isSome
  · have hrun : s.anyLongTimeTaskStarted = true := anyLongTimeTaskStarted_iff.2 ⟨n, hn⟩
    have hrun' : (s.bookLastTaskEvent n t).anyLongTimeTaskStarted = true :=
      (anyLongTimeTaskStarted_congr bookLastTaskEvent_longTimeTasks).trans hrun
    rw [taskTimeAt_of_running hrun, taskTimeAt_of_running hrun', bookLastTaskEvent_of_known hs h hn]
    ring
  · rw [bookLastTaskEvent_of_unknown hn]

theorem bookLastTaskEvent_last (hs : s.TasksStarted) (h : s.lastContiniousTaskUsed ≤ t) :
    (s.bookLastTaskEvent n t).lastContiniousTaskUsed =
      if (s.longTimeTasks[n]?).isSome then t else s.lastContiniousTaskUsed := by
  by_cases hn : (s.longTimeTasks[n]?).isSome
  · rw [bookLastTaskEvent_of_known hs h hn, if_pos hn]
  · rw [bookLastTaskEvent_of_unknown hn, if_neg hn]

theorem taskTimeAt_recordTaskEvent
    (hn : (s.longTimeTasks[n]?).isSome → s.lastContiniousTaskUsed = t) :
    (s.recordTaskEvent n t e).taskTimeAt t = s.taskTimeAt t := by
  cases e with
  | longTimeTaskStartted =>
    have hrun : (s.recordTaskEvent n t .longTimeTaskStartted).anyLongTimeTaskStarted = true :=
      anyLongTimeTaskStarted_iff.2 ⟨n, by simp [recordTaskEvent]⟩
    rw [taskTimeAt_of_running hrun]
    by_cases h : s.anyLongTimeTaskStarted = true
    · rw [taskTimeAt_of_running h]
      simp [recordTaskEvent, h]
    · rw [taskTimeAt_of_not_running h]
      simp [recordTaskEvent, h]
  | longTimeTaskEnded =>
    by_cases hin : (s.longTimeTasks[n]?).isSome
    · rw [taskTimeAt, taskTimeAt]
      simp [recordTaskEvent, hn hin]
    · have hany : (s.recordTaskEvent n t .longTimeTaskEnded).anyLongTimeTaskStarted =
          s.anyLongTimeTaskStarted := by
        rw [Bool.eq_iff_iff, anyLongTimeTaskStarted_iff, anyLongTimeTaskStarted_iff]
        simp only [recordTaskEvent, Std.TreeMap.getElem?_erase, Std.LawfulEqCmp.compare_eq_iff_eq]
        refine exists_congr fun m => ?_
        split_ifs with hm
        · subst hm
          simp [hin]
        · rfl
      rw [taskTimeAt, taskTimeAt, hany]
      rfl
  | _ => rfl

theorem recordTaskEvent_last_le (h : s.lastContiniousTaskUsed ≤ t) :
    (s.recordTaskEvent n t e).lastContiniousTaskUsed ≤ t := by
  unfold recordTaskEvent
  split
  · simp only
    split_ifs
    · exact h
    · exact le_rfl
  all_goals exact h

theorem taskTimeAt_updateLongTimeTask (hs : s.TasksStarted) (h : s.lastContiniousTaskUsed ≤ t) :
    (s.updateLongTimeTask n t e).taskTimeAt t = s.taskTimeAt t := by
  unfold updateLongTimeTask
  split_ifs
  · rw [taskTimeAt_recordTaskEvent, taskTimeAt_bookLastTaskEvent hs h]
    rw [bookLastTaskEvent_longTimeTasks, bookLastTaskEvent_last hs h]
    exact fun hn => if_pos hn
  · rfl

theorem updateLongTimeTask_last_le (hs : s.TasksStarted) (h : s.lastContiniousTaskUsed ≤ t) :
    (s.updateLongTimeTask n t e).lastContiniousTaskUsed ≤ t := by
  unfold updateLongTimeTask
  split_ifs
  · refine recordTaskEvent_last_le ?_
    rw [bookLastTaskEvent_last hs h]
    split_ifs
    · exact le_rfl
    · exact h
  · exact h

/-! ### The two families of events do not meet -/

structure SameFront (s s' : BundleActivePackageStats) : Prop where
  abilities : s'.abilities = s.abilities
  last : s'.lastTimeUsed = s.lastTimeUsed
  total : s'.totalInFrontTime = s.totalInFrontTime

theorem SameFront.trans {s₁ s₂ s₃ : BundleActivePackageStats} (h : SameFront s₁ s₂)
    (h' : SameFront s₂ s₃) : SameFront s₁ s₃ :=
  ⟨h'.abilities.trans h.abilities, h'.last.trans h.last, h'.total.trans h.total⟩

theorem SameFront.frontTimeAt {s' : BundleActivePackageStats} (h : SameFront s s') :
    s'.frontTimeAt t = s.frontTimeAt t :=
  frontTimeAt_congr h.abilities h.last h.total

structure SameTasks (s s' : BundleActivePackageStats) : Prop where
  tasks : s'.longTimeTasks = s.longTimeTasks
  last : s'.lastContiniousTaskUsed = s.lastContiniousTaskUsed
  total : s'.totalContiniousTaskUsedTime = s.totalContiniousTaskUsedTime

theorem SameTasks.trans {s₁ s₂ s₃ : BundleActivePackageStats} (h : SameTasks s₁ s₂)
    (h' : SameTasks s₂ s₃) : SameTasks s₁ s₃ :=
  ⟨h'.tasks.trans h.tasks, h'.last.trans h.last, h'.total.trans h.total⟩

theorem SameTasks.taskTimeAt {s' : BundleActivePackageStats} (h : SameTasks s s') :
    s'.taskTimeAt t = s.taskTimeAt t :=
  taskTimeAt_congr h.tasks h.last h.total

theorem sameTasks_noteFirstForeground : SameTasks s (s.noteFirstForeground t e) := by
  unfold noteFirstForeground
  split_ifs <;> exact ⟨rfl, rfl, rfl⟩

theorem sameTasks_bookLastAbilityEvent : SameTasks s (s.bookLastAbilityEvent t e a) := by
  unfold bookLastAbilityEvent incrementTimeUsed
  split <;> (try split_ifs) <;> exact ⟨rfl, rfl, rfl⟩

theorem sameTasks_recordAbilityEvent : SameTasks s (s.recordAbilityEvent t e a) := by
  unfold recordAbilityEvent
  split <;> exact ⟨rfl, rfl, rfl⟩

theorem sameTasks_updateAbility : SameTasks s (s.updateAbility t e a) := by
  unfold updateAbility
  split_ifs
  · exact (sameTasks_noteFirstForeground.trans sameTasks_bookLastAbilityEvent).trans
      sameTasks_recordAbilityEvent
  · exact ⟨rfl, rfl, rfl⟩

theorem sameFront_bookLastTaskEvent : SameFront s (s.bookLastTaskEvent n t) := by
  unfold bookLastTaskEvent incrementServiceTimeUsed
  split <;> (try split_ifs) <;> exact ⟨rfl, rfl, rfl⟩

theorem sameFront_recordTaskEvent : SameFront s (s.recordTaskEvent n t e) := by
  unfold recordTaskEvent
  split <;> exact ⟨rfl, rfl, rfl⟩

theorem sameFront_updateLongTimeTask : SameFront s (s.updateLongTimeTask n t e) := by
  unfold updateLongTimeTask
  split_ifs
  · exact sameFront_bookLastTaskEvent.trans sameFront_recordTaskEvent
  · exact ⟨rfl, rfl, rfl⟩

/-! ### Ticks -/

theorem tick_eq (h : s.StampsBefore t) :
    s.tick t =
      { s with
        totalInFrontTime := s.frontTimeAt t
        lastTimeUsed := if s.hasFrontAbility then t else s.lastTimeUsed
        totalContiniousTaskUsedTime := s.taskTimeAt t
        lastContiniousTaskUsed :=
          if s.anyLongTimeTaskStarted then t else s.lastContiniousTaskUsed } := by
  unfold tick
  by_cases hf : s.hasFrontAbility = true
  · simp only [if_pos hf, incrementTimeUsed_of_le h.front, frontTimeAt_of_front hf]
    by_cases ht : s.anyLongTimeTaskStarted = true
    · rw [taskTimeAt_of_running ht, if_pos ht, if_pos]
      · exact incrementServiceTimeUsed_of_le (s := { s with
          totalInFrontTime := s.totalInFrontTime + (t - s.lastTimeUsed), lastTimeUsed := t }) h.task
      · exact ht
    · rw [taskTimeAt_of_not_running ht, if_neg ht, if_neg]
      exact ht
  · simp only [if_neg hf, frontTimeAt_of_not_front hf]
    by_cases ht : s.anyLongTimeTaskStarted = true
    · rw [taskTimeAt_of_running ht, if_pos ht, if_pos ht, incrementServiceTimeUsed_of_le h.task]
    · rw [taskTimeAt_of_not_running ht, if_neg ht, if_neg ht]

/-! ### `Update` -/

/-- Case analysis of `Update` on the family of the event. -/
theorem update_cases (s : BundleActivePackageStats) (n : String) (t : ℤ) (e : EventId)
    (a : String) :
    (e.isAppStateEvent = true ∧ s.update n t e a = { s.updateAbility t e a with endTimeStamp := t }) ∨
    (e.isTaskEvent = true ∧
      s.update n t e a = { s.updateLongTimeTask n t e with endTimeStamp := t }) ∨
    (e.isTick = true ∧ s.update n t e a = { s.tick t with endTimeStamp := t }) ∨
    (e.isAppStateEvent = false ∧ e.isTaskEvent = false ∧ e.isTick = false ∧
      s.update n t e a = { s with endTimeStamp := t }) := by
  cases e <;> simp [EventId.isAppStateEvent, EventId.isTaskEvent, EventId.isTick, update]

theorem abilities_updateAbility (he : e.isAppStateEvent = true) :
    (s.updateAbility t e a).abilities =
      if e = .abilityStop then s.abilities.erase a else s.abilities.insert a e := by
  have hab : ((s.noteFirstForeground t e).bookLastAbilityEvent t e a).abilities = s.abilities :=
    bookLastAbilityEvent_fields.trans noteFirstForeground_fields.1
  rw [updateAbility, if_pos he]
  rcases isAppStateEvent_iff.1 he with rfl | rfl | rfl <;> simp [recordAbilityEvent, hab]

theorem longTimeTasks_updateLongTimeTask (he : e.isTaskEvent = true) :
    (s.updateLongTimeTask n t e).longTimeTasks =
      if e = .longTimeTaskEnded then s.longTimeTasks.erase n else s.longTimeTasks.insert n e := by
  rcases isTaskEvent_iff.1 he with rfl | rfl <;>
    simp [updateLongTimeTask, recordTaskEvent, bookLastTaskEvent_longTimeTasks]

theorem tick_maps :
    (s.tick t).abilities = s.abilities ∧ (s.tick t).longTimeTasks = s.longTimeTasks := by
  unfold tick incrementTimeUsed incrementServiceTimeUsed
  simp only
  split_ifs <;> exact ⟨rfl, rfl⟩

theorem getElem?_abilities_update (b : String) :
    (s.update n t e a).abilities[b]? =
      if e.isAppStateEvent = true ∧ b = a then if e = .abilityStop then none else some e
      else s.abilities[b]? := by
  rcases update_cases s n t e a with ⟨he, h⟩ | ⟨he, h⟩ | ⟨he, h⟩ | ⟨he, -, -, h⟩
  · rw [h]
    simp only [abilities_updateAbility he, he, true_and]
    split_ifs with hstop hb hb
    · simp [hb]
    · simp [Std.TreeMap.getElem?_erase, Ne.symm hb]
    · simp [hb]
    · simp [Std.TreeMap.getElem?_insert, Ne.symm hb]
  · have hne : e.isAppStateEvent = false := by
      rcases isTaskEvent_iff.1 he with rfl | rfl <;> rfl
    simp [h, hne, sameFront_updateLongTimeTask.abilities]
  · have hne : e.isAppStateEvent = false := by
      rcases isTick_iff.1 he with rfl | rfl | rfl <;> rfl
    simp [h, hne, tick_maps.1]
  · simp [h, he]

theorem getElem?_longTimeTasks_update (m : String) :
    (s.update n t e a).longTimeTasks[m]? =
      if e.isTaskEvent = true ∧ m = n then if e = .longTimeTaskEnded then none else some e
      else s.longTimeTasks[m]? := by
  rcases update_cases s n t e a with ⟨he, h⟩ | ⟨he, h⟩ | ⟨he, h⟩ | ⟨-, he, -, h⟩
  · have hne : e.isTaskEvent = false := by
      rcases isAppStateEvent_iff.1 he with rfl | rfl | rfl <;> rfl
    simp [h, hne, sameTasks_updateAbility.tasks]
  · rw [h]
    simp only [longTimeTasks_updateLongTimeTask he, he, true_and]
    split_ifs with hend hm hm
    · simp [hm]
    · simp [Std.TreeMap.getElem?_erase, Ne.symm hm]
    · simp [hm]
    · simp [Std.TreeMap.getElem?_insert, Ne.symm hm]
  · have hne : e.isTaskEvent = false := by
      rcases isTick_iff.1 he with rfl | rfl | rfl <;> rfl
    simp [h, hne, tick_maps.2]
  · simp [h, he]

theorem TasksStarted.update (hs : s.TasksStarted) : (s.update n t e a).TasksStarted := by
  intro m v hv
  rw [getElem?_longTimeTasks_update] at hv
  split_ifs at hv with h hend
  · obtain rfl := Option.some.inj hv
    revert h hend
    cases e <;> simp [EventId.isTaskEvent]
  · exact hs m v hv

theorem StampsBefore.update (hs : s.TasksStarted) (h : s.StampsBefore t) :
    (s.update n t e a).StampsBefore t := by
  rcases update_cases s n t e a with ⟨-, heq⟩ | ⟨-, heq⟩ | ⟨-, heq⟩ | ⟨-, -, -, heq⟩ <;> rw [heq]
  · exact ⟨updateAbility_lastTimeUsed_le h.front, sameTasks_updateAbility.last.trans_le h.task⟩
  · exact ⟨sameFront_updateLongTimeTask.last.trans_le h.front,
      updateLongTimeTask_last_le hs h.task⟩
  · rw [tick_eq h]
    constructor <;> simp only <;> split_ifs <;> first | exact le_rfl | exact h.front | exact h.task
  · exact ⟨h.front, h.task⟩

/-- No update moves the time in front read at its own instant. -/
theorem frontTimeAt_update (h : s.StampsBefore t) :
    (s.update n t e a).frontTimeAt t = s.frontTimeAt t := by
  rcases update_cases s n t e a with ⟨-, heq⟩ | ⟨-, heq⟩ | ⟨-, heq⟩ | ⟨-, -, -, heq⟩ <;> rw [heq]
  · exact frontTimeAt_updateAbility h.front
  · exact sameFront_updateLongTimeTask.frontTimeAt
  · rw [tick_eq h]
    by_cases hf : s.hasFrontAbility = true
    · rw [frontTimeAt_of_front (by exact hf)]
      simp [hf]
    · rw [frontTimeAt_of_not_front (by exact hf)]
  · rfl

theorem taskTimeAt_update (hs : s.TasksStarted) (h : s.StampsBefore t) :
    (s.update n t e a).taskTimeAt t = s.taskTimeAt t := by
  rcases update_cases s n t e a with ⟨-, heq⟩ | ⟨-, heq⟩ | ⟨-, heq⟩ | ⟨-, -, -, heq⟩ <;> rw [heq]
  · exact sameTasks_updateAbility.taskTimeAt
  · exact taskTimeAt_updateLongTimeTask hs h.task
  · rw [tick_eq h]
    by_cases ht : s.anyLongTimeTaskStarted = true
    · rw [taskTimeAt_of_running (by exact ht)]
      simp [ht]
    · rw [taskTimeAt_of_not_running (by exact ht)]
  · rfl

theorem totalInFrontTime_update_tick (he : e.isTick = true) (h : s.StampsBefore t) :
    (s.update n t e a).totalInFrontTime = s.frontTimeAt t := by
  rcases isTick_iff.1 he with rfl | rfl | rfl <;> simp [update, tick_eq h]

theorem totalContiniousTaskUsedTime_update_tick (he : e.isTick = true) (h : s.StampsBefore t) :
    (s.update n t e a).totalContiniousTaskUsedTime = s.taskTimeAt t := by
  rcases isTick_iff.1 he with rfl | rfl | rfl <;> simp [update, tick_eq h]

end BundleActivePackageStats
end DeviceUsageStats
