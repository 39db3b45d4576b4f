import Mathlib.Tactic

/-! Non-interference. What is seen after a run is what is seen after the run without the hidden steps; an
unwinding relation between states shows it one step at a time. -/

namespace Unwinding

variable {σ α ω : Type*}

/-- From a state of the kind, hidden steps do not change what is seen. -/
def NonInterfering (Valid : σ → Prop) (step : σ → α → σ) (hidden : α → Bool) (view : σ → ω) : Prop :=
  ∀ s, Valid s → ∀ l : List α,
    view (l.foldl step s) = view ((l.filter (!hidden ·)).foldl step s)

/-- A relation that a shown step keeps on both sides and a hidden one on the left. -/
structure Unwinds (step : σ → α → σ) (hidden : α → Bool) (R : σ → σ → Prop) : Prop where
  consistent : ∀ s t a, R s t → R (step s a) (step t a)
  respects : ∀ s t a, hidden a = true → R s t → R (step s a) t

variable {Valid : σ → Prop} {step : σ → α → σ} {hidden : α → Bool} {view : σ → ω}
  {R : σ → σ → Prop}

theorem Unwinds.purge (h : Unwinds step hidden R) (l : List α) {s t : σ} (hR : R s t) :
    R (l.foldl step s) ((l.filter (!hidden ·)).foldl step t) := by
  induction l generalizing s t with
  | nil => exact hR
  | cons a l ih =>
    by_cases ha : hidden a = true
    · rw [List.filter_cons_of_neg (by simp [ha])]
      exact ih (h.respects s t a ha hR)
    · rw [List.filter_cons_of_pos (by simp [ha])]
      exact ih (h.consistent s t a hR)

theorem Unwinds.nonInterfering (h : Unwinds step hidden R) (hstart : ∀ s, Valid s → R s s)
    (hview : ∀ s t, R s t → view s = view t) : NonInterfering Valid step hidden view :=
  fun s hs l => hview _ _ (h.purge l (hstart s hs))

/-- A step that gives away what it does by being seen. -/
theorem not_nonInterfering {s : σ} (hs : Valid s) {a : α} (ha : hidden a = true)
    (hview : view (step s a) ≠ view s) : ¬ NonInterfering Valid step hidden view := by
  intro h
  have hrun := h s hs [a]
  rw [List.filter_cons_of_neg (by simp [ha])] at hrun
  exact hview hrun

end Unwinding
