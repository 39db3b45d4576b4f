import Mathlib.Data.List.Basic
import Mathlib.Logic.Relation

/-! Programs of atomic statements over a store that outlives them. A run may stop between two statements; the
program is then started again on what it left. -/

namespace Restart

variable {State Statement : Type*}

/-- A state with the statements that were executed on the way to it. -/
structure Recorded (State Statement : Type*) where
  state : State
  statements : List Statement := []

variable (step : State → Statement → State)

def Recorded.exec (r : Recorded State Statement) (statement : Statement) : Recorded State Statement where
  state := step r.state statement
  statements := r.statements ++ [statement]

/-- The statements that a run executes from a state. -/
abbrev Program (State Statement : Type*) := State → List Statement

namespace Program

variable (p q : Program State Statement)

def run (s : State) : State := (p s).foldl step s

/-- The states in which a run may stop. -/
def StopsIn (s s' : State) : Prop := ∃ done, done <+: p s ∧ done.foldl step s = s'

def andThen : Program State Statement := fun s => p s ++ q (p.run step s)

/-- Started again where it stopped, a run ends as if it had never stopped. -/
def Restartable : Prop := ∀ s s', p.StopsIn step s s' → p.run step s' = p.run step s

/-- Nothing is left to do. -/
def Settled (s : State) : Prop := p.run step s = s

/-- A function on recorded runs that executes the statements of a program. -/
def Implemented (f : Recorded State Statement → Recorded State Statement) : Prop :=
  ∀ r, f r = { state := p.run step r.state, statements := r.statements ++ p r.state }

variable {step p q} {s s' : State}

theorem stopsIn_run (s : State) : p.StopsIn step s (p.run step s) := ⟨p s, List.prefix_refl _, rfl⟩

theorem run_andThen (s : State) : (p.andThen step q).run step s = q.run step (p.run step s) := by
  rw [run, andThen, List.foldl_append]
  rfl

theorem stopsIn_andThen (h : (p.andThen step q).StopsIn step s s') :
    p.StopsIn step s s' ∨ q.StopsIn step (p.run step s) s' := by
  obtain ⟨done, hdone, rfl⟩ := h
  obtain ⟨left, hleft⟩ := hdone
  rcases List.append_eq_append_iff.1 hleft with ⟨rest, hrest, -⟩ | ⟨rest, rfl, hrest⟩
  · exact .inl ⟨done, ⟨rest, hrest.symm⟩, rfl⟩
  · exact .inr ⟨rest, ⟨left, hrest.symm⟩, by rw [List.foldl_append, run]⟩

namespace Restartable

theorem settled_run (hp : p.Restartable step) (s : State) : p.Settled step (p.run step s) :=
  hp s _ (stopsIn_run s)

/-- A second program may stop too, if the first has nothing to do where it does. -/
theorem andThen (hp : p.Restartable step) (hq : q.Restartable step)
    (settled : ∀ s s', q.StopsIn step (p.run step s) s' → p.Settled step s') :
    (p.andThen step q).Restartable step := by
  intro s s' h
  rw [run_andThen, run_andThen]
  rcases stopsIn_andThen h with h | h
  · rw [hp s s' h]
  · rw [settled s s' h]
    exact hq _ s' h

/-- However often a run stops, the one that does not ends as the first would have. -/
theorem attempts (hp : p.Restartable step) (h : Relation.ReflTransGen (p.StopsIn step) s s') :
    p.run step s' = p.run step s := by
  induction h with
  | refl => rfl
  | tail _ hstop ih => rw [hp _ _ hstop, ih]

end Restartable

namespace Implemented

variable {f g : Recorded State Statement → Recorded State Statement}

theorem statement (st : Statement) :
    Implemented step (fun _ => [st]) (·.exec step st) := fun _ => rfl

theorem nothing : Implemented step (fun _ => []) id := fun r => by
  rw [List.append_nil]
  rfl

theorem comp (hf : p.Implemented step f) (hg : q.Implemented step g) :
    (p.andThen step q).Implemented step (g ∘ f) := by
  intro r
  rw [Function.comp, hf r, hg, run_andThen, andThen, List.append_assoc]

end Implemented

end Program

/-! ### Columns that are added to a table -/

/-- What a statement does to a value in a column that older tables do not have. -/
inductive CellOp (Value : Type*) where
  | skip
  | add (default : Value)
  | set (value : Value)

namespace CellOp

variable {Value : Type*}

def apply (cell : Option Value) : CellOp Value → Option Value
  | skip => cell
  | add default => some (cell.getD default)
  | set value => cell.map fun _ => value

/-- No value is set before the column is added. -/
def AddedFirst : List (CellOp Value) → Prop
  | [] => True
  | skip :: ops => AddedFirst ops
  | add _ :: _ => True
  | set _ :: _ => False

variable {ops done : List (CellOp Value)} {v : Value}

theorem exists_foldl_some (ops : List (CellOp Value)) (v : Value) :
    ∃ w, ops.foldl apply (some v) = some w := by
  induction ops generalizing v with
  | nil => exact ⟨v, rfl⟩
  | cons op ops ih => cases op <;> exact ih _

theorem foldl_some_restart (h : done <+: ops) (v : Value) :
    ops.foldl apply (done.foldl apply (some v)) = ops.foldl apply (some v) := by
  induction ops generalizing done v with
  | nil => rw [List.prefix_nil.1 h, List.foldl_nil]
  | cons op ops ih =>
    cases done with
    | nil => rfl
    | cons op' done =>
      obtain ⟨hop, hrest⟩ := List.cons_prefix_cons.1 h
      subst hop
      obtain ⟨w, hw⟩ := exists_foldl_some done v
      cases op' with
      | skip => exact ih hrest v
      | add default =>
        have hstep := ih hrest v
        rw [hw] at hstep
        rw [List.foldl_cons, List.foldl_cons, List.foldl_cons]
        simp only [apply, Option.getD_some, hw]
        exact hstep
      | set value =>
        obtain ⟨w, hw⟩ := exists_foldl_some done value
        rw [List.foldl_cons, List.foldl_cons, List.foldl_cons]
        simp only [apply, Option.map_some, hw]

/-- A column that is added before it is filled ends the same after a stop. -/
theorem foldl_restart (hadded : AddedFirst ops) (h : done <+: ops) (cell : Option Value) :
    ops.foldl apply (done.foldl apply cell) = ops.foldl apply cell := by
  induction ops generalizing done cell with
  | nil => rw [List.prefix_nil.1 h, List.foldl_nil]
  | cons op ops ih =>
    cases done with
    | nil => rfl
    | cons op' done =>
      obtain ⟨hop, hrest⟩ := List.cons_prefix_cons.1 h
      subst hop
      cases op' with
      | skip => exact ih hadded hrest cell
      | add default =>
        obtain ⟨w, hw⟩ := exists_foldl_some done (cell.getD default)
        have hstep := foldl_some_restart hrest (cell.getD default)
        rw [hw] at hstep
        rw [List.foldl_cons, List.foldl_cons, List.foldl_cons]
        simp only [apply, hw, Option.getD_some]
        exact hstep
      | set value => exact hadded.elim

theorem foldl_of_set (hadded : AddedFirst ops) (hset : .set v ∈ ops) (hall : ∀ w, .set w ∈ ops → w = v)
    (cell : Option Value) : ops.foldl apply cell = some v := by
  have hsome : ∀ (ops : List (CellOp Value)) (w : Value), (∀ x, .set x ∈ ops → x = v) →
      (.set v ∈ ops ∨ w = v) → ops.foldl apply (some w) = some v := by
    intro ops
    induction ops with
    | nil =>
      rintro w - (hmem | rfl)
      · cases hmem
      · rfl
    | cons op ops ih =>
      intro w hall hw
      have hall' : ∀ x, .set x ∈ ops → x = v := fun x hx => hall x (List.mem_cons_of_mem _ hx)
      cases op with
      | skip => exact ih w hall' (hw.imp_left fun hmem => by simpa using hmem)
      | add default => exact ih w hall' (hw.imp_left fun hmem => by simpa using hmem)
      | set value => exact ih value hall' (.inr (hall value List.mem_cons_self))
  induction ops generalizing cell with
  | nil => cases hset
  | cons op ops ih =>
    have hall' : ∀ x, .set x ∈ ops → x = v := fun x hx => hall x (List.mem_cons_of_mem _ hx)
    cases op with
    | skip => exact ih hadded (by simpa using hset) hall' cell
    | add default => exact hsome ops _ hall' (.inl (by simpa using hset))
    | set value => exact hadded.elim

theorem foldl_of_not_set (hadd : .add v ∈ ops) (hall : ∀ w, .add w ∈ ops → w = v)
    (hset : ∀ w, .set w ∉ ops) (cell : Option Value) : ops.foldl apply cell = some (cell.getD v) := by
  induction ops generalizing cell with
  | nil => cases hadd
  | cons op ops ih =>
    have hall' : ∀ x, .add x ∈ ops → x = v := fun x hx => hall x (List.mem_cons_of_mem _ hx)
    have hset' : ∀ x, .set x ∉ ops := fun x hx => hset x (List.mem_cons_of_mem _ hx)
    cases op with
    | skip => exact ih (by simpa using hadd) hall' hset' cell
    | add default =>
      rw [List.foldl_cons, apply, hall default List.mem_cons_self]
      by_cases hmore : .add v ∈ ops
      · rw [ih hmore hall' hset', Option.getD_some]
      · have hskip : ∀ op ∈ ops, op = .skip := by
          intro op hop
          cases op with
          | skip => rfl
          | add w => exact absurd (hall' w hop ▸ hop) hmore
          | set w => exact absurd hop (hset' w)
        rw [List.eq_replicate_of_mem hskip]
        generalize ops.length = k
        induction k with
        | zero => rfl
        | succ k ihk => exact ihk
    | set value => exact absurd List.mem_cons_self (hset value)

end CellOp

end Restart
