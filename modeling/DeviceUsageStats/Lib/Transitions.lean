import Mathlib.Tactic

/-! Logs of changes of one value. A log replays a value when each record begins where the one before
it ended and names a real change; what the log says of the value is then what the value is. -/

namespace Transitions

variable {R V : Type*} (old new : R → V)

/-- The log takes the value from the first to the last. -/
def Replays : V → List R → V → Prop
  | v, [], v' => v = v'
  | v, r :: log, v' => old r = v ∧ old r ≠ new r ∧ Replays (new r) log v'

variable {old new}

@[simp] theorem replays_nil {v v' : V} : Replays old new v [] v' ↔ v = v' := Iff.rfl

@[simp] theorem replays_cons {v v' : V} {r : R} {log : List R} :
    Replays old new v (r :: log) v' ↔
      old r = v ∧ old r ≠ new r ∧ Replays old new (new r) log v' := Iff.rfl

theorem Replays.append {v v' v'' : V} {log log' : List R} (h : Replays old new v log v')
    (h' : Replays old new v' log' v'') : Replays old new v (log ++ log') v'' := by
  induction log generalizing v with
  | nil =>
    rw [replays_nil] at h
    rwa [h]
  | cons r log ih =>
    obtain ⟨hold, hne, hlog⟩ := h
    exact ⟨hold, hne, ih hlog⟩

theorem Replays.last {v v' : V} {log : List R} (h : Replays old new v log v') :
    v' = (log.getLast?.map new).getD v := by
  induction log generalizing v with
  | nil => exact (replays_nil.1 h).symm
  | cons r log ih =>
    rw [ih h.2.2, List.getLast?_cons]
    cases log.getLast? <;> rfl

theorem Replays.of_append {v v'' : V} {log log' : List R} (h : Replays old new v (log ++ log') v'') :
    ∃ v', Replays old new v log v' ∧ Replays old new v' log' v'' := by
  induction log generalizing v with
  | nil => exact ⟨v, rfl, h⟩
  | cons r log ih =>
    obtain ⟨hold, hne, hlog⟩ := h
    obtain ⟨v', hlog, hlog'⟩ := ih hlog
    exact ⟨v', ⟨hold, hne, hlog⟩, hlog'⟩

end Transitions
