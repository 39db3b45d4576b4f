import Mathlib.Tactic

/-! A scan for a least value: a candidate is taken where its value is strictly below the best so far, so the
first candidate of the least value wins, and none does where no value is below the bound. -/

namespace LeastScan

variable {ι : Type*} (value : ι → Option ℤ)

def step (best : Option ι × ℤ) (i : ι) : Option ι × ℤ :=
  match value i with
  | none => best
  | some v => if v < best.2 then (some i, v) else best

/-- What a scan has found among the candidates that it has seen. -/
inductive Found (bound : ℤ) (seen : List ι) : Option ι × ℤ → Prop where
  | nothing (least : ∀ j ∈ seen, ∀ v ∈ value j, bound ≤ v) : Found bound seen (none, bound)
  | first (before after : List ι) (i : ι) (v : ℤ) (split : seen = before ++ i :: after)
    (here : value i = some v) (below : v < bound) (least : ∀ j ∈ before, ∀ w ∈ value j, v < w)
    (later : ∀ j ∈ after, ∀ w ∈ value j, v ≤ w) : Found bound seen (some i, v)

variable {value}

theorem Found.snd_le {bound : ℤ} {seen : List ι} {best : Option ι × ℤ}
    (h : Found value bound seen best) : best.2 ≤ bound ∧ ∀ j ∈ seen, ∀ v ∈ value j, best.2 ≤ v := by
  cases h with
  | nothing least => exact ⟨le_rfl, least⟩
  | first before after i v split here below least later =>
    refine ⟨below.le, fun j hj w hw => ?_⟩
    subst split
    rcases List.mem_append.1 hj with hj | hj
    · exact (least j hj w hw).le
    rcases List.mem_cons.1 hj with rfl | hj
    · rw [here] at hw
      exact (Option.some.inj hw).le
    · exact later j hj w hw

theorem Found.step {bound : ℤ} {seen : List ι} {best : Option ι × ℤ}
    (h : Found value bound seen best) (i : ι) :
    Found value bound (seen ++ [i]) (step value best i) := by
  obtain ⟨hbound, hseen⟩ := h.snd_le
  unfold LeastScan.step
  cases hv : value i with
  | none =>
    cases h with
    | nothing least =>
      refine .nothing fun j hj v hvj => ?_
      rcases List.mem_append.1 hj with hj | hj
      · exact least j hj v hvj
      · rw [List.mem_singleton.1 hj, hv] at hvj
        cases hvj
    | first before after k v split here below least later =>
      refine .first before (after ++ [i]) k v (by simp [split]) here below least fun j hj w hw => ?_
      rcases List.mem_append.1 hj with hj | hj
      · exact later j hj w hw
      · rw [List.mem_singleton.1 hj, hv] at hw
        cases hw
  | some v =>
    simp only
    split_ifs with hlt
    · exact .first seen [] i v rfl hv (hlt.trans_le hbound)
        (fun j hj w hw => hlt.trans_le (hseen j hj w hw)) fun j hj => absurd hj List.not_mem_nil
    · cases h with
      | nothing least =>
        refine .nothing fun j hj w hw => ?_
        rcases List.mem_append.1 hj with hj | hj
        · exact least j hj w hw
        · rw [List.mem_singleton.1 hj, hv] at hw
          exact (Option.some.inj hw) ▸ not_lt.1 hlt
      | first before after k u split here below least later =>
        refine .first before (after ++ [i]) k u (by simp [split]) here below least fun j hj w hw => ?_
        rcases List.mem_append.1 hj with hj | hj
        · exact later j hj w hw
        · rw [List.mem_singleton.1 hj, hv] at hw
          exact (Option.some.inj hw) ▸ not_lt.1 hlt

theorem found_foldl (value : ι → Option ℤ) (bound : ℤ) (l : List ι) :
    Found value bound l (l.foldl (step value) (none, bound)) := by
  induction l using List.reverseRecOn with
  | nil => exact .nothing fun j hj => absurd hj List.not_mem_nil
  | append_singleton l i ih =>
    rw [List.foldl_append]
    exact ih.step i

end LeastScan
