import DeviceUsageStats.Lib.Histories
import DeviceUsageStats.Spec.PeriodStats

/-! The screen and keyguard trackers of a period over any calls. To one tracker a call is an update into its
state, an update into the state it is paired with or a commit, or it does not concern it; the calls that
concern it cut the time line into spans, and the tracker adds up those that an update into its state
begins. -/

namespace DeviceUsageStats

/-! ### One tracker -/

namespace BundleActiveEventTracker

variable {α : Type*} {time : α → ℤ} {enters : α → Bool}

/-- The number of updates that do not directly follow another one. -/
def freshUpdates (enters : α → Bool) (own : List α) : ℕ :=
  (Histories.preceded own).countP fun x => enters x.1 && !x.2.any enters

/-- The pairs of neighbours that an update begins. -/
def ownSpans (enters : α → Bool) (own : List α) : List (α × α) :=
  (Histories.spans own).filter fun x => enters x.1

/-- The tracker has seen the calls `own`, the last of which tells whether it is running. -/
structure Follows (time : α → ℤ) (enters : α → Bool) (own : List α) (t : BundleActiveEventTracker) :
    Prop where
  curStartTime : t.curStartTime = ((own.getLast?.filter enters).map time).getD 0
  duration : t.duration = ((ownSpans enters own).map fun x => time x.2 - time x.1).sum
  count : t.count = freshUpdates enters own

theorem Follows.fresh : Follows time enters [] {} := ⟨rfl, rfl, rfl⟩

theorem Follows.curStartTime_ne_zero {own : List α} {t : BundleActiveEventTracker}
    (h : Follows time enters own t) (hpos : ∀ c ∈ own, 0 < time c) :
    t.curStartTime ≠ 0 ↔ (own.getLast?.filter enters).isSome := by
  rw [h.curStartTime]
  cases hlast : own.getLast?.filter enters with
  | none => simp
  | some c =>
    have htime := hpos c (List.mem_of_getLast? (Option.filter_eq_some_iff.1 hlast).1)
    simpa using htime.ne'

theorem ownSpans_snoc (own : List α) (c : α) :
    ownSpans enters (own ++ [c]) =
      ownSpans enters own ++ ((own.getLast?.filter enters).map fun b => (b, c)).toList := by
  unfold ownSpans
  rw [Histories.spans_snoc, List.filter_append]
  cases own.getLast? with
  | none => rfl
  | some b => cases henters : enters b <;> simp [henters, Option.filter_some]

theorem freshUpdates_snoc (own : List α) (c : α) :
    freshUpdates enters (own ++ [c]) = freshUpdates enters own +
      if enters c && (own.getLast?.filter enters).isNone then 1 else 0 := by
  unfold freshUpdates
  rw [Histories.preceded_snoc, List.countP_append, List.countP_singleton]
  cases own.getLast? with
  | none => rfl
  | some b => cases henters : enters b <;> simp [henters, Option.filter_some]

/-- What an update and a commit both do: the span that is open goes to the total. -/
theorem Follows.duration_commitTime {own : List α} {t : BundleActiveEventTracker}
    (h : Follows time enters own t) (hpos : ∀ c ∈ own, 0 < time c) (c : α) :
    (t.commitTime (time c)).duration =
      ((ownSpans enters (own ++ [c])).map fun x => time x.2 - time x.1).sum := by
  have hrunning := h.curStartTime_ne_zero hpos
  have hstart := h.curStartTime
  rw [ownSpans_snoc, List.map_append, List.sum_append, ← h.duration]
  unfold BundleActiveEventTracker.commitTime
  cases hopen : own.getLast?.filter enters with
  | none =>
    rw [hopen, Option.map_none, Option.getD_none] at hstart
    rw [if_pos hstart]
    simp
  | some b =>
    rw [hopen] at hstart hrunning
    rw [if_neg (hrunning.2 rfl), hstart]
    simp

theorem Follows.commitTime {own : List α} {t : BundleActiveEventTracker}
    (h : Follows time enters own t) (hpos : ∀ c ∈ own, 0 < time c) {c : α} (hc : enters c = false) :
    Follows time enters (own ++ [c]) (t.commitTime (time c)) := by
  refine ⟨?_, h.duration_commitTime hpos c, ?_⟩
  · have hstopped : (t.commitTime (time c)).curStartTime = 0 := by
      unfold BundleActiveEventTracker.commitTime
      split_ifs with h0
      · exact h0
      · rfl
    rw [hstopped, List.getLast?_concat, Option.filter_some, if_neg (by simp [hc])]
    rfl
  · have hcount : (t.commitTime (time c)).count = t.count := by
      unfold BundleActiveEventTracker.commitTime
      split_ifs <;> rfl
    rw [hcount, h.count, freshUpdates_snoc, hc]
    rfl

theorem Follows.update {own : List α} {t : BundleActiveEventTracker}
    (h : Follows time enters own t) (hpos : ∀ c ∈ own, 0 < time c) {c : α} (hc : enters c = true) :
    Follows time enters (own ++ [c]) (t.update (time c)) := by
  have hrunning := h.curStartTime_ne_zero hpos
  refine ⟨?_, ?_, ?_⟩
  · rw [List.getLast?_concat, Option.filter_some, if_pos hc]
    rfl
  · rw [← h.duration_commitTime hpos c]
    unfold BundleActiveEventTracker.update BundleActiveEventTracker.commitTime
    by_cases h0 : t.curStartTime = 0 <;> simp [h0]
  · have hcount : (t.update (time c)).count = t.count + if t.curStartTime = 0 then 1 else 0 := by
      unfold BundleActiveEventTracker.update BundleActiveEventTracker.commitTime
      by_cases h0 : t.curStartTime = 0 <;> simp [h0]
    rw [hcount, h.count, freshUpdates_snoc, hc, Bool.true_and, Nat.cast_add]
    congr 1
    cases hopen : own.getLast?.filter enters with
    | none =>
      rw [hopen] at hrunning
      have h0 : t.curStartTime = 0 := by simpa using hrunning
      rw [if_pos h0]
      rfl
    | some b =>
      rw [hopen] at hrunning
      rw [if_neg (hrunning.2 rfl)]
      rfl

end BundleActiveEventTracker

/-! ### The two pairs of a period -/

namespace BundleActivePeriodStats

open BundleActiveEventTracker (freshUpdates ownSpans)

inductive TrackerCall where
  | updateScreenInteractive
  | updateScreenNonInteractive
  | updateKeyguardShown
  | updateKeyguardHidden
  | commitTime

def trackerCall (p : BundleActivePeriodStats) (call : TrackerCall × ℤ) : BundleActivePeriodStats :=
  match call.1 with
  | .updateScreenInteractive => p.updateScreenInteractive call.2
  | .updateScreenNonInteractive => p.updateScreenNonInteractive call.2
  | .updateKeyguardShown => p.updateKeyguardShown call.2
  | .updateKeyguardHidden => p.updateKeyguardHidden call.2
  | .commitTime => p.commitTime call.2

inductive TrackerState where
  | interactive
  | nonInteractive
  | keyguardShown
  | keyguardHidden
  deriving DecidableEq

def TrackerState.other : TrackerState → TrackerState
  | .interactive => .nonInteractive
  | .nonInteractive => .interactive
  | .keyguardShown => .keyguardHidden
  | .keyguardHidden => .keyguardShown

def tracker (p : BundleActivePeriodStats) : TrackerState → BundleActiveEventTracker
  | .interactive => p.interactiveTracker
  | .nonInteractive => p.noninteractiveTracker
  | .keyguardShown => p.keyguardShownTracker
  | .keyguardHidden => p.keyguardHiddenTracker

def TrackerCall.state : TrackerCall → Option TrackerState
  | .updateScreenInteractive => some .interactive
  | .updateScreenNonInteractive => some .nonInteractive
  | .updateKeyguardShown => some .keyguardShown
  | .updateKeyguardHidden => some .keyguardHidden
  | .commitTime => none

def enters (s : TrackerState) (call : TrackerCall × ℤ) : Bool := decide (call.1.state = some s)

def pairCalls (s : TrackerState) (calls : List (TrackerCall × ℤ)) : List (TrackerCall × ℤ) :=
  calls.filter fun call => enters s call || enters s.other call || decide (call.1.state = none)

/-- The spans from an update into a state to the next update of the pair or commit. -/
def stateSpans (s : TrackerState) (calls : List (TrackerCall × ℤ)) : List (ℤ × ℤ) :=
  (ownSpans (enters s) (pairCalls s calls)).map fun x => (x.1.2, x.2.2)

theorem pairCalls_other (s : TrackerState) (calls : List (TrackerCall × ℤ)) :
    pairCalls s.other calls = pairCalls s calls := by
  have hother : s.other.other = s := by cases s <;> rfl
  refine List.filter_congr fun call _ => ?_
  rw [hother, Bool.or_comm (enters s.other call)]

theorem tracker_trackerCall (p : BundleActivePeriodStats) (s : TrackerState) (call : TrackerCall × ℤ) :
    (p.trackerCall call).tracker s =
      if enters s call then (p.tracker s).update call.2
      else if enters s.other call || decide (call.1.state = none) then (p.tracker s).commitTime call.2
      else p.tracker s := by
  obtain ⟨c, t⟩ := call
  cases c <;> cases s <;> rfl

theorem tracker_follows (userId beginTime : ℤ) (calls : List (TrackerCall × ℤ)) (hpos : ∀ call ∈ calls, 0 < call.2)
    (s : TrackerState) :
    BundleActiveEventTracker.Follows Prod.snd (enters s) (pairCalls s calls)
      ((calls.foldl trackerCall { userId := userId, beginTime := beginTime }).tracker s) := by
  induction calls using List.reverseRecOn with
  | nil =>
    have hfresh : (BundleActivePeriodStats.tracker { userId := userId, beginTime := beginTime } s) = {} := by
      cases s <;> rfl
    rw [List.foldl_nil, hfresh]
    exact .fresh
  | append_singleton calls call ih =>
    have hbefore := ih fun c hc => hpos c (List.mem_append_left _ hc)
    have hown : ∀ c ∈ pairCalls s calls, 0 < c.2 := fun c hc =>
      hpos c (List.mem_append_left _ (List.mem_of_mem_filter hc))
    have hsnoc : pairCalls s (calls ++ [call]) = pairCalls s calls ++
        if enters s call || enters s.other call || decide (call.1.state = none) then [call] else [] := by
      rw [pairCalls, List.filter_append, List.filter_singleton, Bool.cond_eq_ite]
      rfl
    rw [List.foldl_append, List.foldl_cons, List.foldl_nil, tracker_trackerCall, hsnoc]
    cases henters : enters s call with
    | true => exact hbefore.update hown henters
    | false =>
      rw [Bool.false_or, if_neg Bool.false_ne_true]
      split_ifs
      · exact hbefore.commitTime hown henters
      · rwa [List.append_nil]

theorem pairwise_stateSpans (s : TrackerState) {calls : List (TrackerCall × ℤ)}
    (hord : calls.Pairwise fun c d => c.2 ≤ d.2) :
    (stateSpans s calls).Pairwise fun x y => x.2 ≤ y.1 :=
  List.pairwise_map.2 ((Histories.pairwise_spans (fun c => le_refl c.2) (hord.filter _)).filter _)

theorem not_enters_other {s : TrackerState} {call : TrackerCall × ℤ} (h : enters s call = true) :
    enters s.other call = false := by
  obtain ⟨c, t⟩ := call
  cases c <;> cases s <;> first | rfl | cases h

theorem stateSpans_apart (s : TrackerState) {calls : List (TrackerCall × ℤ)}
    (hord : calls.Pairwise fun c d => c.2 ≤ d.2) {x y : ℤ × ℤ} (hx : x ∈ stateSpans s calls)
    (hy : y ∈ stateSpans s.other calls) : x.2 ≤ y.1 ∨ y.2 ≤ x.1 := by
  unfold stateSpans at hx hy
  rw [pairCalls_other] at hy
  obtain ⟨v, hv, rfl⟩ := List.mem_map.1 hx
  obtain ⟨w, hw, rfl⟩ := List.mem_map.1 hy
  obtain ⟨hv, hventers⟩ := List.mem_filter.1 hv
  obtain ⟨hw, hwenters⟩ := List.mem_filter.1 hw
  -- they are two of the pair's spans, as they begin with updates into different states
  have hne : v ≠ w := by
    rintro rfl
    rw [not_enters_other hventers] at hwenters
    cases hwenters
  exact Histories.spans_apart (fun c => le_refl c.2) (hord.filter _) hv hw hne

/-- After any calls at positive times that do not go back, at most one tracker of a pair is running, each has
the length of its own spans as its duration, the spans of a pair do not overlap, and each has counted the
updates into its state that do not directly follow another one. -/
theorem trackers_run (userId beginTime : ℤ) (calls : List (TrackerCall × ℤ)) (hpos : ∀ call ∈ calls, 0 < call.2)
    (hord : calls.Pairwise fun c d => c.2 ≤ d.2) (s : TrackerState) :
    (((calls.foldl trackerCall { userId := userId, beginTime := beginTime }).tracker s).curStartTime = 0 ∨
      ((calls.foldl trackerCall { userId := userId, beginTime := beginTime }).tracker s.other).curStartTime = 0) ∧
    ((calls.foldl trackerCall { userId := userId, beginTime := beginTime }).tracker s).duration =
      ((stateSpans s calls).map fun x => x.2 - x.1).sum ∧
    ((stateSpans s calls).Pairwise fun x y => x.2 ≤ y.1) ∧
    (∀ x ∈ stateSpans s calls, ∀ y ∈ stateSpans s.other calls, x.2 ≤ y.1 ∨ y.2 ≤ x.1) ∧
    ((calls.foldl trackerCall { userId := userId, beginTime := beginTime }).tracker s).count =
      freshUpdates (enters s) (pairCalls s calls) := by
  have hfollows := tracker_follows userId beginTime calls hpos s
  have hother := tracker_follows userId beginTime calls hpos s.other
  refine ⟨?_, ?_, pairwise_stateSpans s hord, fun x hx y hy => stateSpans_apart s hord hx hy,
    hfollows.count⟩
  · rw [hfollows.curStartTime, hother.curStartTime, pairCalls_other]
    cases hopen : (pairCalls s calls).getLast?.filter (enters s) with
    | none => exact .inl rfl
    | some call =>
      obtain ⟨hlast, henters⟩ := Option.filter_eq_some_iff.1 hopen
      right
      rw [hlast, Option.filter_some, not_enters_other henters]
      rfl
  · rw [hfollows.duration, stateSpans, List.map_map]
    rfl

/-- The screen comes on twice in a row, a commit falls between, and it goes off. -/
theorem trackers_run_screen :
    (stateSpans .interactive [(.updateScreenInteractive, 5), (.updateScreenInteractive, 7),
      (.commitTime, 9), (.updateScreenInteractive, 12), (.updateScreenNonInteractive, 20)]).map
        (fun x => x.2 - x.1) = [2, 2, 8] ∧
    (([(.updateScreenInteractive, 5), (.updateScreenInteractive, 7), (.commitTime, 9),
      (.updateScreenInteractive, 12), (.updateScreenNonInteractive, 20)].foldl trackerCall
        { userId := 100, beginTime := 1 }).tracker .interactive).count =
      freshUpdates (enters .interactive) (pairCalls .interactive
        [(.updateScreenInteractive, 5), (.updateScreenInteractive, 7), (.commitTime, 9),
          (.updateScreenInteractive, 12), (.updateScreenNonInteractive, 20)]) :=
  ⟨by decide, (trackers_run 100 1 _ (by decide) (by decide) .interactive).2.2.2.2⟩

end BundleActivePeriodStats

end DeviceUsageStats
