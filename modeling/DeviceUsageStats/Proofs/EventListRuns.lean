import DeviceUsageStats.Lib.InsertionOrder
import DeviceUsageStats.Spec.EventList

/-! Runs of the event list. It holds the events since the last `Clear` in order of their stamps, and the search
counts those before a stamp, as long as no list is merged into itself: `Merge` reads its argument again after
every insertion. Events of one stamp are another matter: the end of the list takes a new one behind the
others, the search before them. -/

namespace DeviceUsageStats

namespace BundleActiveEventList

/-! ### Insertion -/

def insertIndex (events : List BundleActiveEvent) (event : BundleActiveEvent) : ℕ :=
  if ∀ e ∈ events.getLast?, event.timeStamp ≥ e.timeStamp then events.length
  else (findBestIndexLoop (events.map (·.timeStamp)) event.timeStamp 0 (events.length - 1)
    events.length).toNat

theorem events_insert (l : BundleActiveEventList) (event : BundleActiveEvent) :
    (l.insert event).events = l.events.insertIdx (insertIndex l.events event) event := by
  unfold insert insertIndex
  split_ifs
  · rw [List.insertIdx_length_self]
  · rfl

theorem insertIndex_of_sorted (l : BundleActiveEventList) (event : BundleActiveEvent) :
    insertIndex l.events event = if ∀ e ∈ l.events.getLast?, event.timeStamp ≥ e.timeStamp then
      l.events.length else Bisection.rank l.stamps event.timeStamp := by
  have hsearch : findBestIndexLoop (l.events.map (·.timeStamp)) event.timeStamp 0
      (l.events.length - 1) l.events.length = Bisection.rank l.stamps event.timeStamp :=
    l.findBestIndex_eq_rank event.timeStamp
  unfold insertIndex
  rw [hsearch, Int.toNat_natCast]

theorem forall_getLast?_iff (l : BundleActiveEventList) (t : ℤ) :
    (∀ e ∈ l.events.getLast?, t ≥ e.timeStamp) ↔ ∀ e ∈ l.events, e.timeStamp ≤ t := by
  rcases List.eq_nil_or_concat' l.events with hl | ⟨init, last, hl⟩
  · simp [hl]
  · have hsorted := l.sorted
    rw [hl, List.pairwise_append] at hsorted
    rw [hl, List.getLast?_concat]
    refine ⟨fun h e he => ?_, fun h e he => ?_⟩
    · have hlast : last.timeStamp ≤ t := h last rfl
      rcases List.mem_append.1 he with he | he
      · exact (hsorted.2.2 e he last (by simp)).trans hlast
      · rwa [List.mem_singleton.1 he]
    · obtain rfl : last = e := by simpa using he
      exact h last (by simp)

theorem insert_perm (l : BundleActiveEventList) (event : BundleActiveEvent) :
    (l.insert event).events.Perm (l.events ++ [event]) := by
  have hle : insertIndex l.events event ≤ l.events.length := by
    rw [insertIndex_of_sorted]
    split_ifs
    · exact le_rfl
    · exact (Bisection.rank_le_length _ _).trans (by simp [stamps])
  rw [events_insert]
  exact (List.perm_insertIdx _ _ hle).trans (List.perm_append_singleton _ _).symm

theorem foldl_insert_perm (l : BundleActiveEventList) (events : List BundleActiveEvent) :
    (events.foldl insert l).events.Perm (l.events ++ events) := by
  induction events using List.reverseRecOn with
  | nil => simp
  | append_singleton events event ih =>
    rw [List.foldl_append, ← List.append_assoc]
    exact (insert_perm _ event).trans (ih.append_right [event])

/-! ### Merges -/

theorem foldl_range_getD {α β : Type*} (f : β → α → β) (d : α) (xs : List α) (b : β) :
    (List.range xs.length).foldl (fun b i => f b (xs.getD i d)) b = xs.foldl f b := by
  have hmap : (List.range xs.length).map (xs.getD · d) = xs :=
    List.ext_getElem (by simp) fun i hi _ => by
      rw [List.length_map, List.length_range] at hi
      simp [hi]
  rw [← List.foldl_map, hmap]

theorem merge_other (l right : BundleActiveEventList) :
    l.merge (.other right) = right.events.foldl insert l :=
  foldl_range_getD insert {} right.events l

def OneStamp (l : BundleActiveEventList) : Prop :=
  ∀ e ∈ l.events, ∀ f ∈ l.events, e.timeStamp = f.timeStamp

theorem events_insert_last {l : BundleActiveEventList} {event : BundleActiveEvent}
    (h : ∀ e ∈ l.events, e.timeStamp ≤ event.timeStamp) : (l.insert event).events = l.events ++ [event] := by
  rw [events_insert, insertIndex_of_sorted, if_pos ((forall_getLast?_iff l _).2 h),
    List.insertIdx_length_self]

theorem events_insert_first {l : BundleActiveEventList} {event : BundleActiveEvent}
    (hle : ∀ e ∈ l.events, event.timeStamp ≤ e.timeStamp)
    (hlt : ∃ e ∈ l.events, event.timeStamp < e.timeStamp) : (l.insert event).events = event :: l.events := by
  have hlast : ¬ ∀ e ∈ l.events.getLast?, event.timeStamp ≥ e.timeStamp := fun h => by
    obtain ⟨e, he, hearlier⟩ := hlt
    exact absurd ((forall_getLast?_iff l _).1 h e he) (not_le.2 hearlier)
  have hrank : Bisection.rank l.stamps event.timeStamp = 0 := Bisection.rank_eq_zero fun stamp hstamp => by
    obtain ⟨e, he, rfl⟩ := List.mem_map.1 hstamp
    exact hle e he
  rw [events_insert, insertIndex_of_sorted, if_neg hlast, hrank, List.insertIdx_zero]

/-- Events of one stamp are taken up in their order, behind the list. -/
theorem merge_self_of_oneStamp {l : BundleActiveEventList} (h : l.OneStamp) :
    (l.merge .self).events = l.events ++ l.events := by
  have hturns : ∀ k ≤ l.events.length, ((List.range k).foldl (fun m i =>
      m.insert (m.events.getD i {})) l).events = l.events ++ l.events.take k := by
    intro k
    induction k with
    | zero => simp
    | succ k ih =>
      intro hk
      rw [List.range_succ, List.foldl_append, List.foldl_cons, List.foldl_nil]
      generalize (List.range k).foldl (fun m i => m.insert (m.events.getD i {})) l = m at ih ⊢
      have hm := ih (by omega)
      have hread : m.events.getD k {} = l.events[k] := by
        rw [hm, List.getD_append _ _ _ _ (by omega), List.getD_eq_getElem]
      rw [hread, events_insert_last fun e he => ?_, hm, List.append_assoc, ← List.take_concat_get' _ _ hk]
      rw [hm, List.mem_append] at he
      exact (h e (he.elim id List.mem_of_mem_take) _ (List.getElem_mem hk)).le
  have hall := hturns l.events.length le_rfl
  rwa [List.take_length] at hall

theorem first_le {l : BundleActiveEventList} {first : BundleActiveEvent} {rest : List BundleActiveEvent}
    (hl : l.events = first :: rest) : ∀ e ∈ l.events, first.timeStamp ≤ e.timeStamp := by
  intro e he
  have hsorted := l.sorted
  rw [hl] at hsorted he
  rcases List.mem_cons.1 he with rfl | he
  · exact le_rfl
  · exact (List.pairwise_cons.1 hsorted).1 e he

/-- Otherwise every turn finds the first event again, moved up by the turn before. -/
theorem merge_self_of_first {l : BundleActiveEventList} {first : BundleActiveEvent}
    {rest : List BundleActiveEvent} (hl : l.events = first :: rest)
    (hlt : ∃ e ∈ l.events, first.timeStamp < e.timeStamp) :
    (l.merge .self).events = List.replicate l.events.length first ++ l.events := by
  suffices hturns : ∀ k, ((List.range k).foldl (fun m i => m.insert (m.events.getD i {})) l).events =
      List.replicate k first ++ l.events from hturns _
  intro k
  induction k with
  | zero => rfl
  | succ k ih =>
    rw [List.range_succ, List.foldl_append, List.foldl_cons, List.foldl_nil]
    generalize (List.range k).foldl (fun m i => m.insert (m.events.getD i {})) l = m at ih ⊢
    have hread : m.events.getD k {} = first := by
      rw [ih, List.getD_append_right _ _ _ _ (by simp), hl]
      simp
    rw [hread, events_insert_first, ih, List.replicate_succ, List.cons_append]
    · intro e he
      rw [ih, List.mem_append] at he
      exact he.elim (fun he => (congrArg _ (List.eq_of_mem_replicate he)).ge) (first_le hl e)
    · obtain ⟨e, he, hlater⟩ := hlt
      exact ⟨e, by rw [ih]; exact List.mem_append_right _ he, hlater⟩

theorem merge_self_perm_iff (l : BundleActiveEventList) :
    (l.merge .self).events.Perm (l.events ++ l.events) ↔ l.OneStamp := by
  refine ⟨fun hperm => ?_, fun h => (merge_self_of_oneStamp h) ▸ .refl _⟩
  rcases hl : l.events with _ | ⟨first, rest⟩
  · exact fun e he => by simp [hl] at he
  have hsame : ∀ e ∈ l.events, e.timeStamp = first.timeStamp := fun e he => by
    by_contra hne
    have hlt := lt_of_le_of_ne (first_le hl e he) (Ne.symm hne)
    rw [merge_self_of_first hl ⟨e, he, hlt⟩] at hperm
    have hcount := hperm.count_eq e
    have hother : (List.replicate l.events.length first).count e = 0 :=
      List.count_eq_zero.2 fun hmem => hne (congrArg _ (List.eq_of_mem_replicate hmem))
    have hpos := List.count_pos_iff.2 he
    rw [List.count_append, List.count_append, hother] at hcount
    omega
  exact fun e he f hf => (hsame e he).trans (hsame f hf).symm

/-! ### Any calls -/

inductive ListCall where
  | insert (event : BundleActiveEvent)
  | merge (right : MergeArgument)
  | clear

def call (l : BundleActiveEventList) : ListCall → BundleActiveEventList
  | .insert event => l.insert event
  | .merge right => l.merge right
  | .clear => l.clear

/-- The list, and the events inserted or merged since the last `Clear`. -/
abbrev Gathered := BundleActiveEventList × List BundleActiveEvent

def Gathered.call (g : Gathered) (c : ListCall) : Gathered :=
  (g.1.call c, match c with
    | .insert event => g.2 ++ [event]
    | .merge right => g.2 ++ right.events g.1
    | .clear => [])

structure Gathered.Kept (g : Gathered) : Prop where
  sorted : g.1.events.Pairwise fun e f => e.timeStamp ≤ f.timeStamp
  perm : g.1.events.Perm g.2
  search : ∀ t : ℤ, g.1.findBestIndex t = g.1.events.countP (·.timeStamp < t)

/-- The call merges no list into itself, unless all its events have one stamp. -/
def ListCall.KeepsFrom (l : BundleActiveEventList) : ListCall → Prop
  | .merge .self => l.OneStamp
  | _ => True

theorem Gathered.kept_iff (g : Gathered) : g.Kept ↔ g.1.events.Perm g.2 := by
  refine ⟨Gathered.Kept.perm, fun hperm => ⟨g.1.sorted, hperm, fun t => ?_⟩⟩
  rw [findBestIndex_eq_rank, Bisection.rank, stamps, List.countP_map]
  rfl

theorem Gathered.kept_call_iff {g : Gathered} (h : g.Kept) (c : ListCall) :
    (g.call c).Kept ↔ c.KeepsFrom g.1 := by
  rw [kept_iff]
  cases c with
  | insert event => exact iff_of_true ((insert_perm g.1 event).trans (h.perm.append_right _)) trivial
  | clear => exact iff_of_true .nil trivial
  | merge right =>
    cases right with
    | other right =>
      refine iff_of_true ?_ trivial
      have hmerge : (g.1.merge (.other right)).events.Perm (g.1.events ++ right.events) := by
        rw [merge_other]
        exact foldl_insert_perm g.1 right.events
      exact hmerge.trans (h.perm.append_right _)
    | self =>
      rw [ListCall.KeepsFrom, ← merge_self_perm_iff]
      have hgathered : (g.1.events ++ g.1.events).Perm (g.2 ++ g.1.events) := h.perm.append_right _
      exact ⟨fun hperm => hperm.trans hgathered.symm, fun hperm => hperm.trans hgathered⟩

def gathered (calls : List ListCall) : Gathered := calls.foldl Gathered.call ({}, [])

/-- In every state of a run the list is sorted and holds the events since the last `Clear`, and
`FindBestIndex` counts those before a stamp, iff no call of the run spoils it. -/
theorem eventList_run_iff (calls : List ListCall) :
    (∀ n, (gathered (calls.take n)).Kept) ↔
      ∀ n, ∀ c ∈ calls[n]?, ListCall.KeepsFrom (gathered (calls.take n)).1 c := by
  have hnext : ∀ n, ∀ c ∈ calls[n]?, gathered (calls.take (n + 1)) = (gathered (calls.take n)).call c := by
    intro n c hc
    rw [gathered, List.take_add_one, hc, Option.toList_some, List.foldl_append]
    rfl
  refine ⟨fun h n c hc => ?_, fun h n => ?_⟩
  · rw [← Gathered.kept_call_iff (h n), ← hnext n c hc]
    exact h (n + 1)
  · induction n with
    | zero => exact (Gathered.kept_iff _).2 .nil
    | succ n ih =>
      cases hc : calls[n]? with
      | none =>
        rw [List.take_add_one, hc, Option.toList_none, List.append_nil]
        exact ih
      | some c =>
        rw [hnext n c hc, Gathered.kept_call_iff ih]
        exact h n c hc

def mergedIntoItself : List ListCall :=
  [.insert { bundleName := "com.example.mail", timeStamp := 1 },
    .insert { bundleName := "com.example.notes", timeStamp := 2 }, .merge .self]

theorem not_kept_mergedIntoItself : ¬ (gathered mergedIntoItself).Kept := fun h =>
  absurd h.perm (by decide +kernel)

example : (gathered mergedIntoItself).1.events.map (·.timeStamp) = [1, 1, 1, 2] := by decide +kernel

/-! ### Ties -/

/-- Events of one stamp stand in the order of the calls that inserted them. -/
def TiesKept (events : List BundleActiveEvent) : Prop :=
  InsertionOrder.TiesKept insertIndex BundleActiveEvent.timeStamp events

instance (events : List BundleActiveEvent) : Decidable (TiesKept events) :=
  inferInstanceAs (Decidable (InsertionOrder.TiesKept insertIndex BundleActiveEvent.timeStamp events))

theorem map_fst_numbered (events : List BundleActiveEvent) :
    (InsertionOrder.numbered insertIndex events).map Prod.fst =
      (events.foldl BundleActiveEventList.insert {}).events := by
  rw [InsertionOrder.map_fst_numbered]
  induction events using List.reverseRecOn with
  | nil => rfl
  | append_singleton events event ih =>
    rw [List.foldl_append, List.foldl_append, ih]
    exact (events_insert _ event).symm

theorem findBestIndexLoop_le {stamps : List ℤ} {timeStamp n : ℤ} (lo hi result : ℤ) (hhi : hi ≤ n)
    (hresult : result ≤ n) : findBestIndexLoop stamps timeStamp lo hi result ≤ n := by
  fun_induction findBestIndexLoop stamps timeStamp lo hi result with
  | case1 lo hi result h mid hge ih => exact ih (by omega) (by omega)
  | case2 lo hi result h mid hlt ih => exact ih hhi hresult
  | case3 lo hi result h => exact hresult

theorem insertIndex_le (events : List BundleActiveEvent) (event : BundleActiveEvent) :
    insertIndex events event ≤ events.length := by
  unfold insertIndex
  split_ifs
  · exact le_rfl
  · have hle : findBestIndexLoop (events.map (·.timeStamp)) event.timeStamp 0 (events.length - 1)
        events.length ≤ events.length := findBestIndexLoop_le _ _ _ (by omega) le_rfl
    omega

/-- No event that is inserted has the stamp of an earlier one after a later stamp has come in. -/
def TiesAtEnd (events : List BundleActiveEvent) : Prop :=
  ∀ n, ∀ event ∈ events[n]?, (∃ e ∈ events.take n, e.timeStamp = event.timeStamp) →
    ∀ e ∈ events.take n, e.timeStamp ≤ event.timeStamp

theorem tiesAtEnd_snoc_iff (events : List BundleActiveEvent) (event : BundleActiveEvent) :
    TiesAtEnd (events ++ [event]) ↔ TiesAtEnd events ∧
      ((∃ e ∈ events, e.timeStamp = event.timeStamp) → ∀ e ∈ events, e.timeStamp ≤ event.timeStamp) := by
  refine ⟨fun h => ⟨fun n e he => ?_, ?_⟩, fun h n e he => ?_⟩
  · obtain ⟨hn, -⟩ := List.getElem?_eq_some_iff.1 he
    have hlast := h n e (by rw [List.getElem?_append_left hn]; exact he)
    rwa [List.take_append_of_le_length hn.le] at hlast
  · have hlast := h events.length event (by simp)
    rwa [List.take_left] at hlast
  · rcases Nat.lt_or_ge n events.length with hn | hn
    · rw [List.getElem?_append_left hn] at he
      rw [List.take_append_of_le_length hn.le]
      exact h.1 n e he
    · obtain ⟨hlt, hget⟩ := List.getElem?_eq_some_iff.1 he
      obtain rfl : n = events.length := by
        rw [List.length_append, List.length_singleton] at hlt
        omega
      obtain rfl : event = e := by simpa using hget
      rw [List.take_left]
      exact h.2

theorem mem_drop_insertIndex (l : BundleActiveEventList) {event e : BundleActiveEvent} :
    e ∈ l.events.drop (insertIndex l.events event) ↔
      (¬ ∀ f ∈ l.events, f.timeStamp ≤ event.timeStamp) ∧ e ∈ l.events ∧
        event.timeStamp ≤ e.timeStamp := by
  rw [insertIndex_of_sorted]
  split_ifs with hlast
  · rw [List.drop_length]
    exact iff_of_false List.not_mem_nil fun h => h.1 ((forall_getLast?_iff l _).1 hlast)
  · rw [stamps, Bisection.drop_rank_map l.stamps_sorted, List.mem_filter, decide_eq_true_eq,
      ← forall_getLast?_iff]
    exact (and_iff_right hlast).symm

theorem tiesKept_iff (events : List BundleActiveEvent) : TiesKept events ↔ TiesAtEnd events := by
  induction events using List.reverseRecOn with
  | nil => exact iff_of_true .nil fun n e he => (by simp at he)
  | append_singleton events event ih =>
    have hmem : ∀ e, e ∈ (events.foldl BundleActiveEventList.insert {}).events ↔ e ∈ events := fun e => by
      have hperm := foldl_insert_perm {} events
      exact hperm.mem_iff
    have hbehind : (∀ e ∈ (events.foldl BundleActiveEventList.insert {}).events.drop
          (insertIndex (events.foldl BundleActiveEventList.insert {}).events event),
          e.timeStamp ≠ event.timeStamp) ↔
        ((∃ e ∈ events, e.timeStamp = event.timeStamp) → ∀ e ∈ events, e.timeStamp ≤ event.timeStamp) := by
      simp only [mem_drop_insertIndex, hmem]
      refine ⟨fun h htie => ?_, fun h e he hstamp => he.1 (h ⟨e, he.2.1, hstamp⟩)⟩
      obtain ⟨e, he, hstamp⟩ := htie
      by_contra hlater
      exact h e ⟨hlater, he, hstamp.ge⟩ hstamp
    unfold TiesKept at ih ⊢
    rw [InsertionOrder.tiesKept_snoc_iff insertIndex_le, map_fst_numbered, ih, tiesAtEnd_snoc_iff, hbehind]

/-- A bundle goes to the background at 5, and comes to the foreground in the same millisecond; the second
event arrives after one of 7. -/
def lateTie : List BundleActiveEvent :=
  [{ bundleName := "com.example.mail", eventId := .abilityBackground, timeStamp := 5 },
    { bundleName := "com.example.notes", eventId := .abilityForeground, timeStamp := 7 },
    { bundleName := "com.example.mail", eventId := .abilityForeground, timeStamp := 5 }]

theorem not_tiesKept_lateTie : ¬ TiesKept lateTie := by decide +kernel

end BundleActiveEventList

end DeviceUsageStats
