import Mathlib
import DeviceUsageStats.Spec.HighFrequency

/-! The tallies of `ProcessEvents`. The entry of a bundle is a run over the events of the bundle alone; along
that run the tallies count the sessions that have been closed, each at the weekday and the hour of its
start. -/

namespace DeviceUsageStats

/-! ### Sessions -/

def BundleActiveEvent.isForeground (event : BundleActiveEvent) : Bool :=
  event.eventId = .abilityForeground

def BundleActiveEvent.isClose (event : BundleActiveEvent) : Bool :=
  event.eventId = .abilityBackground ∨ event.eventId = .abilityStop

/-- The events between one close and the next, the last part being open. -/
def partsBetweenCloses (events : List BundleActiveEvent) : List (List BundleActiveEvent) :=
  events.splitOnP (·.isClose)

/-- The stamp of the first foreground event of a part. -/
def partStart (part : List BundleActiveEvent) : Option ℤ :=
  (part.find? (·.isForeground)).map (·.timeStamp)

/-- The starts of the closed sessions of a bundle, from its own events. -/
def sessionStarts (events : List BundleActiveEvent) : List ℤ :=
  (partsBetweenCloses events).dropLast.filterMap partStart

def openStart (events : List BundleActiveEvent) : Option ℤ :=
  (partsBetweenCloses events).getLast?.bind partStart

theorem splitOnP_snoc_of_neg {α : Type*} (p : α → Bool) {x : α} (hx : p x = false) (l : List α) :
    ∃ parts last, l.splitOnP p = parts ++ [last] ∧ (l ++ [x]).splitOnP p = parts ++ [last ++ [x]] := by
  induction l with
  | nil => exact ⟨[], [], by simp, by simp [List.splitOnP_cons_eq_if_modifyHead, hx]⟩
  | cons y l ih =>
    obtain ⟨parts, last, hl, hlx⟩ := ih
    rw [List.cons_append, List.splitOnP_cons_eq_if_modifyHead, List.splitOnP_cons_eq_if_modifyHead, hl,
      hlx]
    split_ifs
    · exact ⟨[] :: parts, last, rfl, rfl⟩
    · cases parts with
      | nil => exact ⟨[], y :: last, rfl, rfl⟩
      | cons part parts => exact ⟨(y :: part) :: parts, last, rfl, rfl⟩

theorem exists_parts (events : List BundleActiveEvent) :
    ∃ parts last, partsBetweenCloses events = parts ++ [last] :=
  ⟨_, _, (List.dropLast_append_getLast (List.splitOnP_ne_nil _ _)).symm⟩

theorem sessions_snoc_close (events : List BundleActiveEvent) {event : BundleActiveEvent}
    (h : event.isClose = true) :
    sessionStarts (events ++ [event]) = sessionStarts events ++ (openStart events).toList ∧
      openStart (events ++ [event]) = none := by
  obtain ⟨parts, last, hparts⟩ := exists_parts events
  have hsnoc : partsBetweenCloses (events ++ [event]) = parts ++ [last] ++ [[]] := by
    have hsplit := List.splitOnP_append_cons (p := (·.isClose)) events [] h
    rw [partsBetweenCloses, hsplit, List.splitOnP_nil, ← hparts]
    rfl
  unfold sessionStarts openStart
  rw [hsnoc, hparts]
  refine ⟨?_, by simp [partStart]⟩
  simp only [List.dropLast_concat, List.filterMap_append, List.getLast?_concat, Option.bind_some]
  cases h : partStart last <;> simp [h]

theorem sessions_snoc_of_not_close (events : List BundleActiveEvent) {event : BundleActiveEvent}
    (h : event.isClose = false) :
    sessionStarts (events ++ [event]) = sessionStarts events ∧
      openStart (events ++ [event]) =
        (openStart events).or (if event.isForeground then some event.timeStamp else none) := by
  obtain ⟨parts, last, hparts, hsnoc⟩ := splitOnP_snoc_of_neg (·.isClose) h events
  unfold sessionStarts openStart partsBetweenCloses
  rw [hsnoc, hparts]
  refine ⟨by simp, ?_⟩
  simp only [List.getLast?_concat, Option.bind_some, partStart, List.find?_append]
  cases hfind : last.find? (·.isForeground) with
  | some first => simp
  | none =>
    by_cases hfg : event.isForeground = true
    · simp [hfg]
    · simp [hfg]

theorem mem_openStart {events : List BundleActiveEvent} {start : ℤ} (h : openStart events = some start) :
    ∃ event ∈ events, event.timeStamp = start := by
  induction events using List.reverseRecOn with
  | nil => simp [openStart, partsBetweenCloses, partStart] at h
  | append_singleton events event ih =>
    cases hclose : event.isClose with
    | true =>
      rw [(sessions_snoc_close events hclose).2] at h
      cases h
    | false =>
      rw [(sessions_snoc_of_not_close events hclose).2] at h
      cases hopen : openStart events with
      | some start' =>
        obtain ⟨e, he, hstart⟩ := ih (by rw [hopen] at h ⊢; exact h)
        exact ⟨e, List.mem_append_left _ he, hstart⟩
      | none =>
        rw [hopen, Option.none_or] at h
        split_ifs at h
        exact ⟨event, by simp, Option.some.inj h⟩

/-! ### Arrays -/

theorem elementAt_fin {α : Type} {n : ℕ} (values : Vector α n) (i : Fin n) :
    elementAt values ((i : ℕ) : ℤ) = some values[i] := by
  unfold elementAt
  simp

theorem increment_fin {n : ℕ} (counts : Vector ℤ n) (i : Fin n) :
    ∃ counts', increment counts ((i : ℕ) : ℤ) = some counts' ∧
      ∀ j : Fin n, counts'[j] = counts[j] + if j = i then 1 else 0 := by
  refine ⟨counts.setIfInBounds i (counts[i] + 1), ?_, fun j => ?_⟩
  · unfold increment
    rw [elementAt_fin]
    simp
  · by_cases hj : j = i
    · subst hj
      simp
    · have hne : (i : ℕ) ≠ j := fun h => hj (Fin.ext h.symm)
      simp [hne, hj]

/-! ### The counts of a run -/

def momentOf (localtime : ℤ → Option Tm) (timeStamp : ℤ) : Option (ℤ × ℤ) :=
  (localtime (timeStamp.tdiv 1000)).map fun tm => (tm.tmWday, tm.tmHour)

def Readable (localtime : ℤ → Option Tm) (timeStamp : ℤ) : Prop :=
  ∃ (weekDay : Fin numDayOneWeek) (hour : Fin numHourOneDay),
    momentOf localtime timeStamp = some (((weekDay : ℕ) : ℤ), ((hour : ℕ) : ℤ))

/-- The tallies count the starts of the sessions by weekday and hour. -/
structure Tallied (localtime : ℤ → Option Tm) (starts : List ℤ) (usage : AppUsage) : Prop where
  hourUsage : ∀ (d : Fin numDayOneWeek) (h : Fin numHourOneDay), usage.hourUsage[d][h] =
    starts.countP fun s => momentOf localtime s = some (((d : ℕ) : ℤ), ((h : ℕ) : ℤ))
  dayUsage : ∀ d : Fin numDayOneWeek, usage.dayUsage[d] =
    starts.countP fun s => (momentOf localtime s).map Prod.fst = some ((d : ℕ) : ℤ)
  hourTotalUse : ∀ h : Fin numHourOneDay, usage.hourTotalUse[h] =
    starts.countP fun s => (momentOf localtime s).map Prod.snd = some ((h : ℕ) : ℤ)

variable {localtime : ℤ → Option Tm}

theorem tallied_nil (startTime : ℤ) : Tallied localtime [] { startTime := startTime } := by
  refine ⟨fun d h => ?_, fun d => ?_, fun h => ?_⟩
  · simp
  · simp
  · simp

theorem Tallied.setStart {starts : List ℤ} {usage : AppUsage} (h : Tallied localtime starts usage)
    (startTime : ℤ) : Tallied localtime starts { usage with startTime := startTime } :=
  ⟨h.hourUsage, h.dayUsage, h.hourTotalUse⟩

theorem Tallied.closeSession {starts : List ℤ} {usage : AppUsage} (h : Tallied localtime starts usage)
    (hread : Readable localtime usage.startTime) :
    ∃ usage', usage.closeSession localtime = some usage' ∧ usage'.startTime = defaultInvalidValue ∧
      Tallied localtime (starts ++ [usage.startTime]) usage' := by
  obtain ⟨weekDay, hour, hmoment⟩ := hread
  obtain ⟨tm, htm, hfields⟩ := Option.map_eq_some_iff.1 hmoment
  obtain ⟨hday, hhour⟩ := Prod.ext_iff.1 hfields
  obtain ⟨dayUsage, hdayUsage, hdays⟩ := increment_fin usage.dayUsage weekDay
  obtain ⟨hours, hhours, hhoursAt⟩ := increment_fin usage.hourUsage[weekDay] hour
  obtain ⟨hourTotalUse, hhourTotalUse, htotals⟩ := increment_fin usage.hourTotalUse hour
  simp only at hday hhour
  refine ⟨{ dayUsage := dayUsage
            hourUsage := usage.hourUsage.setIfInBounds weekDay hours
            hourTotalUse := hourTotalUse
            startTime := defaultInvalidValue }, ?_, rfl, ?_⟩
  · rw [Fin.getElem_fin] at hhours
    unfold AppUsage.closeSession
    rw [htm]
    simp [hday, hhour, hdayUsage, elementAt_fin, hhours, hhourTotalUse]
  · refine ⟨fun d k => ?_, fun d => ?_, fun k => ?_⟩
    · rw [List.countP_append, Nat.cast_add, ← h.hourUsage d k, List.countP_singleton, hmoment]
      by_cases hd : d = weekDay
      · subst hd
        simp only [Fin.getElem_fin, Vector.getElem_setIfInBounds_self]
        rw [show hours[(k : ℕ)] = hours[k] from rfl, hhoursAt]
        by_cases hk : k = hour
        · simp [hk]
        · have hne : ¬ (hour : ℕ) = k := fun heq => hk (Fin.ext heq.symm)
          simp [hk, hne]
      · have hne : ¬ (weekDay : ℕ) = d := fun heq => hd (Fin.ext heq.symm)
        simp [hne]
    · rw [List.countP_append, Nat.cast_add, ← h.dayUsage d, List.countP_singleton, hmoment, hdays]
      by_cases hd : d = weekDay
      · simp [hd]
      · have hne : ¬ (weekDay : ℕ) = d := fun heq => hd (Fin.ext heq.symm)
        simp [hd, hne]
    · rw [List.countP_append, Nat.cast_add, ← h.hourTotalUse k, List.countP_singleton, hmoment, htotals]
      by_cases hk : k = hour
      · simp [hk]
      · have hne : ¬ (hour : ℕ) = k := fun heq => hk (Fin.ext heq.symm)
        simp [hk, hne]

/-! ### The entry of one bundle -/

def closeStep (localtime : ℤ → Option Tm) : Option AppUsage → Option (Option AppUsage)
  | none => some none
  | some usage =>
    if usage.startTime = defaultInvalidValue then some (some usage)
    else (usage.closeSession localtime).map some

/-- What an event does to the entry of its bundle. -/
def useStep (localtime : ℤ → Option Tm) (usage : Option AppUsage) (event : BundleActiveEvent) :
    Option (Option AppUsage) :=
  match event.eventId with
  | .abilityForeground =>
    some (some (if (usage.getD {}).startTime = defaultInvalidValue then
        { usage.getD {} with startTime := event.timeStamp }
      else usage.getD {}))
  | .abilityBackground | .abilityStop => closeStep localtime usage
  | _ => some usage

theorem useStep_of_isClose {usage : Option AppUsage} {event : BundleActiveEvent}
    (h : event.isClose = true) : useStep localtime usage event = closeStep localtime usage := by
  rcases of_decide_eq_true h with hid | hid
  · rw [useStep, hid]
  · rw [useStep, hid]

theorem useStep_of_other {usage : Option AppUsage} {event : BundleActiveEvent}
    (hforeground : ¬ event.isForeground = true) (hclose : ¬ event.isClose = true) :
    useStep localtime usage event = some usage := by
  unfold useStep
  split
  · exact absurd (decide_eq_true ‹_›) hforeground
  · exact absurd (decide_eq_true (.inl ‹_›)) hclose
  · exact absurd (decide_eq_true (.inr ‹_›)) hclose
  · rfl

theorem processEvent_of_other {m : AppUsages} {event : BundleActiveEvent}
    (hforeground : ¬ event.isForeground = true) (hclose : ¬ event.isClose = true) :
    processEvent localtime m event = some m := by
  unfold processEvent
  split
  · exact absurd (decide_eq_true ‹_›) hforeground
  · exact absurd (decide_eq_true (.inl ‹_›)) hclose
  · exact absurd (decide_eq_true (.inr ‹_›)) hclose
  · rfl

structure Follows (localtime : ℤ → Option Tm) (events : List BundleActiveEvent)
    (usage : Option AppUsage) : Prop where
  tallied : Tallied localtime (sessionStarts events) (usage.getD {})
  startTime : (usage.getD {}).startTime = (openStart events).getD defaultInvalidValue

/-- The stamps are valid, and `localtime` reads them. -/
structure ClockReads (localtime : ℤ → Option Tm) (events : List BundleActiveEvent) : Prop where
  nonzero : ∀ event ∈ events, event.timeStamp ≠ 0
  reads : ∀ event ∈ events, Readable localtime event.timeStamp

theorem ClockReads.mono {events events' : List BundleActiveEvent} (h : ClockReads localtime events)
    (hsub : ∀ event ∈ events', event ∈ events) : ClockReads localtime events' :=
  ⟨fun event he => h.nonzero event (hsub event he), fun event he => h.reads event (hsub event he)⟩

theorem follows_nil : Follows localtime [] none := by
  have hopen : openStart [] = none := rfl
  exact ⟨tallied_nil defaultInvalidValue, by rw [hopen]; rfl⟩

/-- A session is open exactly where the start time is valid. -/
theorem Follows.open_iff {events : List BundleActiveEvent} {usage : Option AppUsage}
    (h : Follows localtime events usage) (hclock : ClockReads localtime events) :
    (usage.getD {}).startTime = defaultInvalidValue ↔ openStart events = none := by
  rw [h.startTime]
  cases hopen : openStart events with
  | none => simp
  | some start =>
    obtain ⟨event, he, rfl⟩ := mem_openStart hopen
    exact iff_of_false (hclock.nonzero event he) (by simp)

theorem Follows.close {events : List BundleActiveEvent} {usage : Option AppUsage}
    (h : Follows localtime events usage) (hclock : ClockReads localtime events)
    {event : BundleActiveEvent} (hclose : event.isClose = true) :
    ∃ usage', closeStep localtime usage = some usage' ∧
      Follows localtime (events ++ [event]) usage' := by
  have hopen := h.open_iff hclock
  obtain ⟨hsessions, hnone⟩ := sessions_snoc_close events hclose
  cases hstart : openStart events with
  | none =>
    have hsame : closeStep localtime usage = some usage := by
      cases usage with
      | none => rfl
      | some usage => exact if_pos (hopen.2 hstart)
    rw [hstart, Option.toList_none, List.append_nil] at hsessions
    refine ⟨usage, hsame, ⟨hsessions ▸ h.tallied, ?_⟩⟩
    rw [h.startTime, hstart, hnone]
  | some start =>
    have hvalid : (usage.getD {}).startTime ≠ defaultInvalidValue := by
      rw [ne_eq, hopen, hstart]
      exact Option.some_ne_none start
    have hstartTime : (usage.getD {}).startTime = start := by rw [h.startTime, hstart, Option.getD_some]
    obtain ⟨e, he, hstamp⟩ := mem_openStart hstart
    have hread : Readable localtime (usage.getD {}).startTime := by
      rw [hstartTime, ← hstamp]
      exact hclock.reads e he
    obtain ⟨usage', hclosed, hzero, htallied⟩ := h.tallied.closeSession hread
    cases usage with
    | none => exact absurd rfl hvalid
    | some usage =>
      rw [Option.getD_some] at hvalid hclosed
      refine ⟨some usage', ?_, ?_, ?_⟩
      · rw [closeStep, if_neg hvalid, hclosed, Option.map_some]
      · rw [hsessions, hstart, Option.toList_some, ← hstartTime]
        exact htallied
      · rw [hnone]
        exact hzero

theorem Follows.foreground {events : List BundleActiveEvent} {usage : Option AppUsage}
    (h : Follows localtime events usage) (hclock : ClockReads localtime events)
    {event : BundleActiveEvent} (hforeground : event.isForeground = true)
    (hclose : event.isClose = false) :
    ∃ usage', useStep localtime usage event = some usage' ∧
      Follows localtime (events ++ [event]) usage' := by
  have hopen := h.open_iff hclock
  obtain ⟨hsessions, hsnoc⟩ := sessions_snoc_of_not_close events hclose
  have hid : event.eventId = .abilityForeground := of_decide_eq_true hforeground
  refine ⟨_, by rw [useStep, hid], ?_, ?_⟩
  · rw [hsessions, Option.getD_some]
    split_ifs
    · exact h.tallied.setStart _
    · exact h.tallied
  · rw [hsnoc, hforeground, if_pos rfl, Option.getD_some]
    split_ifs with hzero
    · rw [hopen.1 hzero]
      rfl
    · obtain ⟨start, hstart⟩ := Option.ne_none_iff_exists'.1 (mt hopen.2 hzero)
      rw [h.startTime, hstart]
      rfl

theorem Follows.step {events : List BundleActiveEvent} {usage : Option AppUsage}
    (h : Follows localtime events usage) (event : BundleActiveEvent)
    (hclock : ClockReads localtime (events ++ [event])) :
    ∃ usage', useStep localtime usage event = some usage' ∧
      Follows localtime (events ++ [event]) usage' := by
  have hclock' := hclock.mono fun e he => List.mem_append_left [event] he
  by_cases hclose : event.isClose = true
  · rw [useStep_of_isClose hclose]
    exact h.close hclock' hclose
  · have hnot : event.isClose = false := by simpa using hclose
    by_cases hforeground : event.isForeground = true
    · exact h.foreground hclock' hforeground hnot
    · obtain ⟨hsessions, hsnoc⟩ := sessions_snoc_of_not_close events hnot
      have hskip : openStart (events ++ [event]) = openStart events := by
        rw [hsnoc, if_neg hforeground, Option.or_none]
      exact ⟨usage, useStep_of_other hforeground hclose, hsessions ▸ h.tallied,
        by rw [h.startTime, hskip]⟩

/-! ### The run over all bundles -/

/-- An event changes the entry of its bundle, and no other. -/
theorem processEvent_of_useStep {m : AppUsages} {event : BundleActiveEvent} {usage : Option AppUsage}
    (h : useStep localtime m[event.bundleName]? event = some usage) :
    ∃ m', processEvent localtime m event = some m' ∧ m'[event.bundleName]? = usage ∧
      ∀ k : String, event.bundleName ≠ k → m'[k]? = m[k]? := by
  have hclose : closeStep localtime m[event.bundleName]? = some usage →
      ∃ m', (match m[event.bundleName]? with
        | none => some m
        | some usage =>
          if usage.startTime = defaultInvalidValue then some m
          else (usage.closeSession localtime).map (m.insert event.bundleName ·)) = some m' ∧
        m'[event.bundleName]? = usage ∧ ∀ k : String, event.bundleName ≠ k → m'[k]? = m[k]? := by
    intro h
    cases hm : m[event.bundleName]? with
    | none =>
      rw [hm] at h
      exact ⟨m, rfl, hm.trans (Option.some.inj h), fun _ _ => rfl⟩
    | some old =>
      rw [hm, closeStep] at h
      simp only
      split_ifs at h ⊢ with hzero
      · exact ⟨m, rfl, hm.trans (Option.some.inj h), fun _ _ => rfl⟩
      · obtain ⟨new, hnew, rfl⟩ := Option.map_eq_some_iff.1 h
        rw [hnew]
        exact ⟨_, rfl, by simp, fun k hk => by simp [Std.TreeMap.getElem?_insert, hk]⟩
  by_cases hforeground : event.isForeground = true
  · have hid : event.eventId = .abilityForeground := of_decide_eq_true hforeground
    rw [useStep, hid] at h
    rw [processEvent, hid]
    exact ⟨_, rfl, by rw [Std.TreeMap.getElem?_insert_self]; exact Option.some.inj h,
      fun k hk => by simp [Std.TreeMap.getElem?_insert, hk]⟩
  · by_cases hends : event.isClose = true
    · rw [useStep_of_isClose hends] at h
      rcases of_decide_eq_true hends with hid | hid
      · rw [processEvent, hid]
        exact hclose h
      · rw [processEvent, hid]
        exact hclose h
    · rw [useStep_of_other hforeground hends] at h
      rw [processEvent_of_other hforeground hends]
      exact ⟨m, rfl, Option.some.inj h, fun _ _ => rfl⟩

def ownEvents (bundleName : String) (events : List BundleActiveEvent) : List BundleActiveEvent :=
  events.filter (·.bundleName = bundleName)

/-- The run succeeds, and the entry of each bundle is that of a run over its own events. -/
theorem processEvents_own (events : List BundleActiveEvent) (hclock : ClockReads localtime events) :
    ∃ m, processEvents localtime {} events = some m ∧ ∀ b : String,
      (ownEvents b events).foldlM (useStep localtime) none = some m[b]? ∧
        Follows localtime (ownEvents b events) m[b]? := by
  induction events using List.reverseRecOn with
  | nil => exact ⟨{}, rfl, fun b => by simpa [ownEvents] using follows_nil⟩
  | append_singleton events event ih =>
    obtain ⟨m, hm, hown⟩ := ih (hclock.mono fun e he => List.mem_append_left _ he)
    have hsnoc : ownEvents event.bundleName (events ++ [event]) =
        ownEvents event.bundleName events ++ [event] := by simp [ownEvents]
    have hclockOwn : ClockReads localtime (ownEvents event.bundleName events ++ [event]) :=
      hclock.mono fun e he => by
        rw [← hsnoc] at he
        exact (List.mem_filter.1 he).1
    obtain ⟨hrun, hfollows⟩ := hown event.bundleName
    obtain ⟨usage, hstep, hfollows'⟩ := hfollows.step event hclockOwn
    obtain ⟨m', hm', hself, hothers⟩ := processEvent_of_useStep hstep
    refine ⟨m', ?_, fun b => ?_⟩
    · unfold processEvents at hm ⊢
      rw [List.foldlM_append, hm]
      simpa using hm'
    · by_cases hb : event.bundleName = b
      · subst hb
        rw [hsnoc, hself, List.foldlM_append, hrun]
        exact ⟨by simpa using hstep, hfollows'⟩
      · have hskip : ownEvents b (events ++ [event]) = ownEvents b events := by
          simp [ownEvents, hb]
        rw [hskip, hothers b hb]
        exact hown b

/-! ### Sums -/

theorem sum_countP_some {n : ℕ} (f : ℤ → Option ℤ) (l : List ℤ)
    (hl : ∀ s ∈ l, ∃ d : Fin n, f s = some ((d : ℕ) : ℤ)) :
    (∑ d : Fin n, (l.countP fun s => f s = some ((d : ℕ) : ℤ) : ℤ)) = l.length := by
  induction l with
  | nil => simp
  | cons s l ih =>
    obtain ⟨d₀, hd₀⟩ := hl s (List.mem_cons_self ..)
    simp only [List.countP_cons, Nat.cast_add, Finset.sum_add_distrib,
      ih fun s hs => hl s (List.mem_cons_of_mem _ hs), hd₀, List.length_cons]
    simp [Fin.val_inj]

theorem sum_countP_fst {n : ℕ} (g : ℤ → Option (ℤ × ℤ)) (h : ℤ) (l : List ℤ)
    (hl : ∀ s ∈ l, ∃ d : Fin n, (g s).map Prod.fst = some ((d : ℕ) : ℤ)) :
    (∑ d : Fin n, (l.countP fun s => g s = some (((d : ℕ) : ℤ), h) : ℤ)) =
      (l.countP fun s => (g s).map Prod.snd = some h : ℤ) := by
  induction l with
  | nil => simp
  | cons s l ih =>
    obtain ⟨d₀, hd₀⟩ := hl s (List.mem_cons_self ..)
    obtain ⟨⟨a, b⟩, hs, ha⟩ := Option.map_eq_some_iff.1 hd₀
    simp only at ha
    simp only [List.countP_cons, Nat.cast_add, Finset.sum_add_distrib,
      ih fun s hs => hl s (List.mem_cons_of_mem _ hs), hs, ha]
    congr 1
    by_cases hb : b = h
    · subst hb
      simp [Fin.val_inj]
    · simp [hb]

theorem sum_countP_snd {n : ℕ} (g : ℤ → Option (ℤ × ℤ)) (d : ℤ) (l : List ℤ)
    (hl : ∀ s ∈ l, ∃ h : Fin n, (g s).map Prod.snd = some ((h : ℕ) : ℤ)) :
    (∑ h : Fin n, (l.countP fun s => g s = some (d, ((h : ℕ) : ℤ)) : ℤ)) =
      (l.countP fun s => (g s).map Prod.fst = some d : ℤ) := by
  have hswap := sum_countP_fst (fun s => (g s).map Prod.swap) d l fun s hs => by
    obtain ⟨h, hh⟩ := hl s hs
    exact ⟨h, by rw [← hh, Option.map_map]; rfl⟩
  have hboth : ∀ h : Fin n, l.countP (fun s => g s = some (d, ((h : ℕ) : ℤ))) =
      l.countP fun s => (g s).map Prod.swap = some (((h : ℕ) : ℤ), d) := fun h =>
    List.countP_congr fun s _ => by
      cases g s with
      | none => simp
      | some p => simp [Prod.ext_iff, and_comm]
  have hsnd : (l.countP fun s => ((g s).map Prod.swap).map Prod.snd = some d) =
      l.countP fun s => (g s).map Prod.fst = some d := List.countP_congr fun s _ => by
    cases g s <;> simp
  simp only [hboth]
  rw [← hsnd]
  exact hswap

/-! ### What the tallies count -/

/-- The sums of the three tallies, and what they count: the sessions of the bundle by the weekday and the
hour of their starts. -/
structure CountsSessions (localtime : ℤ → Option Tm) (starts : List ℤ) (usage : AppUsage) : Prop where
  hourUsage : ∀ (d : Fin numDayOneWeek) (h : Fin numHourOneDay), usage.hourUsage[d][h] =
    starts.countP fun s => momentOf localtime s = some (((d : ℕ) : ℤ), ((h : ℕ) : ℤ))
  hourTotalUse : ∀ h : Fin numHourOneDay,
    usage.hourTotalUse[h] = ∑ d : Fin numDayOneWeek, usage.hourUsage[d][h]
  dayUsage : ∀ d : Fin numDayOneWeek,
    usage.dayUsage[d] = ∑ h : Fin numHourOneDay, usage.hourUsage[d][h]
  total : ∑ d : Fin numDayOneWeek, ∑ h : Fin numHourOneDay, usage.hourUsage[d][h] = starts.length

theorem Tallied.countsSessions {starts : List ℤ} {usage : AppUsage}
    (h : Tallied localtime starts usage) (hread : ∀ s ∈ starts, Readable localtime s) :
    CountsSessions localtime starts usage := by
  have hfst : ∀ s ∈ starts, ∃ d : Fin numDayOneWeek,
      (momentOf localtime s).map Prod.fst = some ((d : ℕ) : ℤ) := fun s hs => by
    obtain ⟨d, k, hmoment⟩ := hread s hs
    exact ⟨d, by rw [hmoment]; rfl⟩
  have hsnd : ∀ s ∈ starts, ∃ k : Fin numHourOneDay,
      (momentOf localtime s).map Prod.snd = some ((k : ℕ) : ℤ) := fun s hs => by
    obtain ⟨d, k, hmoment⟩ := hread s hs
    exact ⟨k, by rw [hmoment]; rfl⟩
  have hday : ∀ d : Fin numDayOneWeek,
      usage.dayUsage[d] = ∑ k : Fin numHourOneDay, usage.hourUsage[d][k] := fun d => by
    rw [h.dayUsage, ← sum_countP_snd (momentOf localtime) ((d : ℕ) : ℤ) starts hsnd]
    exact Finset.sum_congr rfl fun k _ => (h.hourUsage d k).symm
  refine ⟨h.hourUsage, fun k => ?_, hday, ?_⟩
  · rw [h.hourTotalUse, ← sum_countP_fst (momentOf localtime) ((k : ℕ) : ℤ) starts hfst]
    exact Finset.sum_congr rfl fun d _ => (h.hourUsage d k).symm
  · rw [← sum_countP_some (fun s => (momentOf localtime s).map Prod.fst) starts hfst]
    exact Finset.sum_congr rfl fun d _ => (hday d).symm.trans (h.dayUsage d)

theorem mem_sessionStarts {events : List BundleActiveEvent} {start : ℤ}
    (h : start ∈ sessionStarts events) : ∃ event ∈ events, event.timeStamp = start := by
  induction events using List.reverseRecOn with
  | nil => simp [sessionStarts, partsBetweenCloses] at h
  | append_singleton events event ih =>
    cases hclose : event.isClose with
    | true =>
      rw [(sessions_snoc_close events hclose).1, List.mem_append] at h
      have hmem : ∃ e ∈ events, e.timeStamp = start := by
        rcases h with h | h
        · exact ih h
        · exact mem_openStart (Option.mem_toList.1 h)
      obtain ⟨e, he, hstart⟩ := hmem
      exact ⟨e, List.mem_append_left _ he, hstart⟩
    | false =>
      rw [(sessions_snoc_of_not_close events hclose).1] at h
      obtain ⟨e, he, hstart⟩ := ih h
      exact ⟨e, List.mem_append_left _ he, hstart⟩

theorem processEvents_counts (localtime : ℤ → Option Tm) (events : List BundleActiveEvent)
    (hclock : ClockReads localtime events) :
    ∃ appUsages, processEvents localtime {} events = some appUsages ∧ ∀ bundleName : String,
      (∃ own, processEvents localtime {} (ownEvents bundleName events) = some own ∧
        own[bundleName]? = appUsages[bundleName]?) ∧
      CountsSessions localtime (sessionStarts (ownEvents bundleName events))
        ((appUsages[bundleName]?).getD {}) := by
  obtain ⟨m, hm, hown⟩ := processEvents_own events hclock
  refine ⟨m, hm, fun b => ⟨?_, ?_⟩⟩
  · obtain ⟨own, hrun, howns⟩ := processEvents_own (ownEvents b events)
      (hclock.mono fun e he => (List.mem_filter.1 he).1)
    have hidem : ownEvents b (ownEvents b events) = ownEvents b events := by
      simp [ownEvents, List.filter_filter]
    have hentry := (howns b).1
    rw [hidem, (hown b).1] at hentry
    exact ⟨own, hrun, (Option.some.inj hentry).symm⟩
  · refine (hown b).2.tallied.countsSessions fun s hs => ?_
    obtain ⟨e, he, rfl⟩ := mem_sessionStarts hs
    exact hclock.reads e (List.mem_filter.1 he).1

/-- Two sessions of one bundle in one hour, the second ended by a stop. -/
def twoSessions : List BundleActiveEvent :=
  [{ eventId := .abilityBackground, timeStamp := 1750349685948 },
    { eventId := .abilityForeground, timeStamp := 1750349694953 },
    { eventId := .abilityForeground, timeStamp := 1750349695953 },
    { eventId := .abilityBackground, timeStamp := 1750349705944 },
    { eventId := .abilityForeground, timeStamp := 1750349709944 },
    { eventId := .abilityStop, timeStamp := 1750349715942 }]

theorem processEvents_counts_two :
    ∃ appUsages, processEvents utc.localtime {} twoSessions = some appUsages ∧
      ∑ d : Fin numDayOneWeek, ∑ h : Fin numHourOneDay,
        ((appUsages[""]?).getD {}).hourUsage[d][h] = 2 := by
  have hclock : ClockReads utc.localtime twoSessions := by
    refine ⟨by decide, fun event he => ⟨(4 : Fin 7), (16 : Fin 24), ?_⟩⟩
    simp only [twoSessions, List.mem_cons, List.not_mem_nil, or_false] at he
    rcases he with rfl | rfl | rfl | rfl | rfl | rfl <;> decide +kernel
  obtain ⟨appUsages, hrun, hown⟩ := processEvents_counts utc.localtime twoSessions hclock
  exact ⟨appUsages, hrun, (hown "").2.total⟩

end DeviceUsageStats
