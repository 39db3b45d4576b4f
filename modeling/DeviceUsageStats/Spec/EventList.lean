import DeviceUsageStats.Lib.Bisection
import DeviceUsageStats.Spec.Event

/-! The in-memory event list (`bundle_active_event_list.cpp`). The list is sorted by time stamp;
the insertion keeps it so, hence the order is a field of the type. -/

namespace DeviceUsageStats

/-- The loop of `FindBestIndex`, on the time stamps of the list. -/
def findBestIndexLoop (stamps : List ℤ) (timeStamp lo hi result : ℤ) : ℤ :=
  if lo ≤ hi then
    let mid := (hi - lo) / 2 + lo
    if stamps.getD mid.toNat 0 ≥ timeStamp then
      findBestIndexLoop stamps timeStamp lo (mid - 1) mid
    else findBestIndexLoop stamps timeStamp (mid + 1) hi result
  else result
termination_by (hi + 1 - lo).toNat
decreasing_by all_goals omega

/-- The bounds of the loop always split the stamps at the time stamp. -/
theorem findBestIndexLoop_eq_rank {stamps : List ℤ} (hs : stamps.Pairwise (· ≤ ·))
    (timeStamp lo hi result : ℤ) (h0 : 0 ≤ lo) (hhi : hi < stamps.length) (hle : lo ≤ hi + 1)
    (hresult : result = hi + 1) (hlow : ∀ i : ℕ, (i : ℤ) < lo → stamps.getD i 0 < timeStamp)
    (hhigh : ∀ i : ℕ, hi < i → i < stamps.length → timeStamp ≤ stamps.getD i 0) :
    findBestIndexLoop stamps timeStamp lo hi result = Bisection.rank stamps timeStamp := by
  fun_induction findBestIndexLoop stamps timeStamp lo hi result with
  | case1 lo hi result h mid hge ih =>
    have hmid : lo ≤ mid ∧ mid ≤ hi := by omega
    refine ih h0 (by omega) (by omega) (by omega) hlow fun i hi' hlen => ?_
    exact hge.trans (Bisection.getD_mono hs (by omega) hlen)
  | case2 lo hi result h mid hlt ih =>
    have hmid : lo ≤ mid ∧ mid ≤ hi := by omega
    refine ih (by omega) hhi (by omega) hresult (fun i hi' => ?_) hhigh
    exact (Bisection.getD_mono hs (by omega) (by omega)).trans_lt (not_le.1 hlt)
  | case3 lo hi result h =>
    obtain ⟨k, rfl⟩ := Int.eq_ofNat_of_zero_le h0
    have hk : Bisection.rank stamps timeStamp = k :=
      Bisection.rank_eq_of_bounds hs (by omega) (fun i hi' => hlow i (by omega))
        fun i hi' hlen => hhigh i (by omega) hlen
    rw [hk]
    omega

theorem BundleActiveEventList.sorted_nil :
    ([] : List BundleActiveEvent).Pairwise (fun e f => e.timeStamp ≤ f.timeStamp) := .nil

structure BundleActiveEventList where
  events : List BundleActiveEvent := []
  sorted : events.Pairwise (fun e f => e.timeStamp ≤ f.timeStamp) := by
    exact BundleActiveEventList.sorted_nil
  deriving DecidableEq

namespace BundleActiveEventList

instance : Inhabited BundleActiveEventList := ⟨{}⟩

def size (l : BundleActiveEventList) : ℤ := l.events.length

def stamps (l : BundleActiveEventList) : List ℤ := l.events.map BundleActiveEvent.timeStamp

theorem stamps_sorted (l : BundleActiveEventList) : l.stamps.Pairwise (· ≤ ·) :=
  List.pairwise_map.2 l.sorted

def findBestIndex (l : BundleActiveEventList) (timeStamp : ℤ) : ℤ :=
  findBestIndexLoop l.stamps timeStamp 0 (l.size - 1) l.size

theorem findBestIndex_eq_rank (l : BundleActiveEventList) (timeStamp : ℤ) :
    l.findBestIndex timeStamp = Bisection.rank l.stamps timeStamp := by
  have hlen : l.stamps.length = l.events.length := List.length_map _
  refine findBestIndexLoop_eq_rank l.stamps_sorted timeStamp 0 _ _ le_rfl ?_ ?_ ?_ ?_ ?_
  · rw [size, hlen]
    omega
  · rw [size]
    omega
  · omega
  · intro i hi
    omega
  · intro i hi hi'
    rw [size] at hi
    omega

/-- `Insert`: an event not before the last is appended, any other goes to its `FindBestIndex`. -/
def insert (l : BundleActiveEventList) (event : BundleActiveEvent) : BundleActiveEventList :=
  if h : ∀ e ∈ l.events.getLast?, event.timeStamp ≥ e.timeStamp then
    { events := l.events ++ [event]
      sorted := by
        refine List.pairwise_append.2 ⟨l.sorted, List.pairwise_singleton _ _, ?_⟩
        intro e he f hf
        obtain rfl := List.mem_singleton.1 hf
        obtain ⟨init, last, hl⟩ := (List.eq_nil_or_concat' l.events).resolve_left
          (List.ne_nil_of_mem he)
        have hlast : last.timeStamp ≤ f.timeStamp := h last (by simp [hl])
        have hsorted := l.sorted
        rw [hl, List.pairwise_append] at hsorted
        rw [hl, List.mem_append, List.mem_singleton] at he
        rcases he with he | rfl
        · exact (hsorted.2.2 e he last (by simp)).trans hlast
        · exact hlast }
  else
    { events := l.events.insertIdx (l.findBestIndex event.timeStamp).toNat event
      sorted := by
        rw [findBestIndex_eq_rank, Int.toNat_natCast, ← List.pairwise_map (R := (· ≤ ·)),
          List.map_insertIdx]
        exact Bisection.insertIdx_rank_sorted l.stamps_sorted }

def clear (_ : BundleActiveEventList) : BundleActiveEventList := {}

/-- The `erase` loops over the list: the kept events stay in order. -/
def eraseIf (l : BundleActiveEventList) (p : BundleActiveEvent → Bool) : BundleActiveEventList :=
  { events := l.events.filter fun e => !p e
    sorted := l.sorted.filter _ }

/-- The argument of `Merge`, a reference: another list, or the list that is merged into. -/
inductive MergeArgument where
  | other (right : BundleActiveEventList)
  | self

def MergeArgument.events (l : BundleActiveEventList) : MergeArgument → List BundleActiveEvent
  | .other right => right.events
  | .self => l.events

/-- `Merge` reads the size once and `right.events_[i]` at every turn. -/
def merge (l : BundleActiveEventList) (right : MergeArgument) : BundleActiveEventList :=
  (List.range (right.events l).length).foldl (fun l i => l.insert ((right.events l).getD i {})) l

end BundleActiveEventList

end DeviceUsageStats
