import Mathlib.Tactic

/-! Writing values into a stream and reading them back. `Reads` says which values a program takes from
the front of a stream and what it makes of them; its rules follow the program, so that a reader is
compared with a writer value by value. -/

namespace Streams

variable {S V α β : Type} (unread : S → List V)

/-! ### Writers -/

/-- The values are written in order until one is refused. -/
def writeAll (write : V → StateM S Bool) : List V → StateM S Bool
  | [] => pure true
  | v :: vs => do if ← write v then writeAll write vs else pure false

/-- What a write accepts stands behind all that is unread. -/
def Appends (write : V → StateM S Bool) : Prop :=
  ∀ v s, ((write v).run s).1 = true → unread ((write v).run s).2 = unread s ++ [v]

variable {unread} {write : V → StateM S Bool}

@[simp] theorem run_writeAll_nil (s : S) : (writeAll write []).run s = (true, s) := rfl

theorem run_writeAll_cons (v : V) (vs : List V) (s : S) :
    (writeAll write (v :: vs)).run s =
      if ((write v).run s).1 then (writeAll write vs).run ((write v).run s).2
      else (false, ((write v).run s).2) := by
  change (StateT.run (if ((write v).run s).1 = true then writeAll write vs else pure false)
    ((write v).run s).2) = _
  split_ifs <;> rfl

theorem run_writeAll_append (vs ws : List V) (s : S) :
    (writeAll write (vs ++ ws)).run s =
      if ((writeAll write vs).run s).1 then (writeAll write ws).run ((writeAll write vs).run s).2
      else (writeAll write vs).run s := by
  induction vs generalizing s with
  | nil => simp
  | cons v vs ih =>
    rw [List.cons_append, run_writeAll_cons, run_writeAll_cons]
    by_cases hv : ((write v).run s).1 = true
    · simp only [if_pos hv, ih]
    · simp [hv]

theorem run_writeAll_flatMap (values : α → List V) (as : List α) (s : S) :
    (writeAll (fun a => writeAll write (values a)) as).run s =
      (writeAll write (as.flatMap values)).run s := by
  induction as generalizing s with
  | nil => rfl
  | cons a as ih =>
    rw [List.flatMap_cons, run_writeAll_append, run_writeAll_cons]
    by_cases ha : ((writeAll write (values a)).run s).1 = true
    · rw [if_pos ha, if_pos ha, ih]
    · rw [if_neg ha, if_neg ha]
      exact Prod.ext (Bool.eq_false_of_not_eq_true ha).symm rfl

theorem accepted_of_append {vs ws : List V} {s : S}
    (h : ((writeAll write (vs ++ ws)).run s).1 = true) :
    ((writeAll write vs).run s).1 = true ∧
      ((writeAll write ws).run ((writeAll write vs).run s).2).1 = true := by
  rw [run_writeAll_append] at h
  by_cases hv : ((writeAll write vs).run s).1 = true
  · rw [if_pos hv] at h
    exact ⟨hv, h⟩
  · rw [if_neg hv] at h
    exact absurd h hv

theorem Appends.unread_writeAll (h : Appends unread write) {vs : List V} {s : S}
    (accepted : ((writeAll write vs).run s).1 = true) :
    unread ((writeAll write vs).run s).2 = unread s ++ vs := by
  induction vs generalizing s with
  | nil => simp
  | cons v vs ih =>
    rw [run_writeAll_cons] at accepted ⊢
    by_cases hv : ((write v).run s).1 = true
    · rw [if_pos hv] at accepted ⊢
      rw [ih accepted, h v s hv, List.append_assoc, List.singleton_append]
    · rw [if_neg hv] at accepted
      cases accepted

/-! ### Readers -/

theorem run_bind_of_run {m : StateM S α} {f : α → StateM S β} {s s' : S} {a : α}
    (h : m.run s = (a, s')) : (m >>= f).run s = (f a).run s' := by
  change (f (m.run s).1).run (m.run s).2 = _
  rw [h]

variable (unread) in
/-- From every stream that begins with the values the program takes exactly these, and returns `a`. -/
def Reads (m : StateM S α) (vs : List V) (a : α) : Prop :=
  ∀ s rest, unread s = vs ++ rest → ∃ s', m.run s = (a, s') ∧ unread s' = rest

theorem Reads.pure (a : α) : Reads unread (pure a) [] a :=
  fun s _ h => ⟨s, rfl, h⟩

theorem Reads.run_bind {m : StateM S α} {vs : List V} {a : α} (h : Reads unread m vs a)
    (f : α → StateM S β) {s : S} {rest : List V} (hs : unread s = vs ++ rest) :
    ∃ s', (m >>= f).run s = (f a).run s' ∧ unread s' = rest := by
  obtain ⟨s', hrun, hrest⟩ := h s rest hs
  refine ⟨s', ?_, hrest⟩
  change (f (m.run s).1).run (m.run s).2 = _
  rw [hrun]

theorem Reads.bind {m : StateM S α} {f : α → StateM S β} {vs ws : List V} {a : α} {b : β}
    (h : Reads unread m vs a) (h' : Reads unread (f a) ws b) :
    Reads unread (m >>= f) (vs ++ ws) b := by
  intro s rest hs
  rw [List.append_assoc] at hs
  obtain ⟨s', hrun, hrest⟩ := h.run_bind f hs
  rw [hrun]
  exact h' s' rest hrest

theorem Reads.map {m : StateM S α} {vs : List V} {a : α} (h : Reads unread m vs a) (f : α → β) :
    Reads unread (do return f (← m)) vs (f a) := by
  have hmap := h.bind (f := fun a => (return f a : StateM S β)) (Reads.pure (f a))
  rwa [List.append_nil] at hmap

/-- A program that is run so many times, with its results in order. -/
def readTimes (m : StateM S α) : ℕ → StateM S (List α)
  | 0 => return []
  | n + 1 => do
    let a ← m
    let as ← readTimes m n
    return a :: as

theorem length_readTimes (m : StateM S α) (n : ℕ) (s : S) :
    ((readTimes m n).run s).1.length = n := by
  induction n generalizing s with
  | zero => rfl
  | succ n ih => exact congrArg (· + 1) (ih _)

/-- A list that is written item by item is read by as many runs of a program that reads one item. -/
theorem Reads.times {m : StateM S α} (values : β → List V) (out : β → α)
    (h : ∀ b, Reads unread m (values b) (out b)) (l : List β) :
    Reads unread (readTimes m l.length) (l.flatMap values) (l.map out) := by
  induction l with
  | nil => exact Reads.pure []
  | cons b l ih =>
    refine (h b).bind ?_
    have hcons := ih.bind (f := fun as => (return out b :: as : StateM S (List α)))
      (Reads.pure (out b :: l.map out))
    rwa [List.append_nil] at hcons

end Streams
