import Mathlib.Tactic
import Mathlib.MeasureTheory.Measure.Lebesgue.Basic
import Mathlib.MeasureTheory.Measure.Real

/-! Time lines of stamped events. A predicate of finite histories is read at every real instant on
the events stamped up to that instant; its `activeLength` until `t` is the Lebesgue measure of the
instants at which it holds. Two rules compute it along a run: an event at the end of the time line
changes nothing, and between events the length grows exactly while the predicate holds. -/

namespace Timeline
noncomputable section
open Classical MeasureTheory

variable {E : Type*} (stamp : E → ℤ) (P : List E → Prop)

def upTo (evs : List E) (x : ℝ) : List E := evs.filter fun e => decide ((stamp e : ℝ) ≤ x)

/-- The instants up to `t` at which `P` holds of the events seen so far. -/
def activeSet (evs : List E) (t : ℤ) : Set ℝ := {x | x ≤ t ∧ P (upTo stamp evs x)}

def activeLength (evs : List E) (t : ℤ) : ℝ := volume.real (activeSet stamp P evs t)

variable {stamp P}

theorem upTo_nil (x : ℝ) : upTo stamp ([] : List E) x = [] := rfl

theorem upTo_eq_self {evs : List E} {x : ℝ} (h : ∀ e ∈ evs, (stamp e : ℝ) ≤ x) :
    upTo stamp evs x = evs :=
  List.filter_eq_self.2 fun e he => by simpa using h e he

theorem upTo_eq_nil {evs : List E} {x : ℝ} (h : ∀ e ∈ evs, x < stamp e) :
    upTo stamp evs x = [] :=
  List.filter_eq_nil_iff.2 fun e he => by simpa using h e he

theorem upTo_snoc_of_lt {evs : List E} {e : E} {x : ℝ} (h : x < stamp e) :
    upTo stamp (evs ++ [e]) x = upTo stamp evs x := by
  simp [upTo, not_le.2 h]

variable (stamp) in
theorem exists_lower_bound (evs : List E) : ∃ b : ℤ, ∀ e ∈ evs, b ≤ stamp e := by
  induction evs with
  | nil => exact ⟨0, by simp⟩
  | cons e evs ih =>
    obtain ⟨b, hb⟩ := ih
    refine ⟨min b (stamp e), fun x hx => ?_⟩
    rcases List.mem_cons.1 hx with rfl | hx
    · exact min_le_right _ _
    · exact (min_le_left _ _).trans (hb x hx)

theorem volume_activeSet_ne_top (h0 : ¬ P []) (evs : List E) (t : ℤ) :
    volume (activeSet stamp P evs t) ≠ ⊤ := by
  obtain ⟨b, hb⟩ := exists_lower_bound stamp evs
  have hsub : activeSet stamp P evs t ⊆ Set.Icc (b : ℝ) t := by
    rintro x ⟨hx, hP⟩
    refine ⟨?_, hx⟩
    by_contra hlt
    rw [upTo_eq_nil fun e he => (not_le.1 hlt).trans_le (by exact_mod_cast hb e he)] at hP
    exact h0 hP
  exact ((measure_mono hsub).trans_lt (by simp)).ne

theorem activeLength_nil (h0 : ¬ P []) (t : ℤ) : activeLength stamp P [] t = 0 := by
  have : activeSet stamp P [] t = ∅ := by
    ext x
    simp [activeSet, upTo_nil, h0]
  simp [activeLength, this]

/-- An event at the end of the time line moves the predicate at one instant only. -/
theorem activeLength_snoc (evs : List E) (e : E) :
    activeLength stamp P (evs ++ [e]) (stamp e) = activeLength stamp P evs (stamp e) := by
  have hpt : ∀ᵐ x : ℝ, x ≠ (stamp e : ℝ) := by
    simp [ae_iff, measure_singleton]
  refine measureReal_congr ?_
  filter_upwards [hpt] with x hx
  refine propext ⟨fun ⟨hle, h⟩ => ⟨hle, ?_⟩, fun ⟨hle, h⟩ => ⟨hle, ?_⟩⟩
  · rwa [upTo_snoc_of_lt (lt_of_le_of_ne hle hx)] at h
  · rwa [upTo_snoc_of_lt (lt_of_le_of_ne hle hx)]

theorem activeLength_extend (h0 : ¬ P []) {evs : List E} {s t : ℤ} (hst : s ≤ t)
    (hs : ∀ e ∈ evs, stamp e ≤ s) :
    activeLength stamp P evs t = activeLength stamp P evs s + if P evs then (t - s : ℝ) else 0 := by
  have hst' : (s : ℝ) ≤ t := by exact_mod_cast hst
  have hafter : ∀ x : ℝ, (s : ℝ) ≤ x → upTo stamp evs x = evs := fun x hx =>
    upTo_eq_self fun e he => le_trans (by exact_mod_cast hs e he) hx
  have hsplit : activeSet stamp P evs t =
      activeSet stamp P evs s ∪ (if P evs then Set.Ioc (s : ℝ) t else ∅) := by
    ext x
    by_cases hx : x ≤ (s : ℝ)
    · by_cases hP : P evs <;> simp [activeSet, hx, hx.trans hst', hP]
    · by_cases hP : P evs <;>
        simp [activeSet, hx, hafter x (not_le.1 hx).le, hP, not_le.1 hx]
  have hdisj : Disjoint (activeSet stamp P evs s) (if P evs then Set.Ioc (s : ℝ) t else ∅) := by
    refine Set.disjoint_left.2 fun x hx hx' => ?_
    split_ifs at hx' with hP
    · exact absurd hx.1 (not_le.2 hx'.1)
    · exact hx'
  have hmeas : MeasurableSet (if P evs then Set.Ioc (s : ℝ) t else ∅) := by
    split_ifs
    · exact measurableSet_Ioc
    · exact MeasurableSet.empty
  have hfin : volume (if P evs then Set.Ioc (s : ℝ) t else ∅) ≠ ⊤ := by
    split_ifs <;> simp
  unfold activeLength
  rw [hsplit, measureReal_union hdisj hmeas (volume_activeSet_ne_top h0 evs s) hfin]
  congr 1
  split_ifs
  · simp [hst']
  · simp

/-- The step rule: the time since the last event counts iff the predicate held of the history
before the event. -/
theorem activeLength_step (h0 : ¬ P []) {evs : List E} {e : E} {s : ℤ} (hst : s ≤ stamp e)
    (hs : ∀ e ∈ evs, stamp e ≤ s) :
    activeLength stamp P (evs ++ [e]) (stamp e) =
      activeLength stamp P evs s + if P evs then (stamp e - s : ℝ) else 0 := by
  rw [activeLength_snoc, activeLength_extend h0 hst hs]

end
end Timeline
