import Mathlib.Tactic

/-! Delayed tasks. A task is submitted with a delay under a handle of its own. It waits until it is taken
to be run, which it can be from its due time on, or until it is cancelled by its handle. A handle names at
most one waiting task; the pool carries the proof. -/

structure DelayedTask (α : Type*) where
  handle : ℕ
  payload : α
  dueTime : ℕ
  deriving DecidableEq

structure TaskPool (α : Type*) where
  now : ℕ := 0
  waiting : List (DelayedTask α) := []
  nextHandle : ℕ := 0
  fresh : ∀ task ∈ waiting, task.handle < nextHandle := by simp
  nodup : (waiting.map (·.handle)).Nodup := by simp

namespace TaskPool

def new (α : Type*) : TaskPool α := {}

variable {α : Type*} (p : TaskPool α)

def submit (payload : α) (delay : ℕ) : TaskPool α where
  now := p.now
  waiting := p.waiting ++ [{ handle := p.nextHandle, payload := payload, dueTime := p.now + delay }]
  nextHandle := p.nextHandle + 1
  fresh task h := by
    rcases List.mem_append.1 h with h | h
    · exact (p.fresh task h).trans (Nat.lt_succ_self _)
    · rw [List.mem_singleton.1 h]
      exact Nat.lt_succ_self _
  nodup := by
    rw [List.map_append, List.nodup_append']
    refine ⟨p.nodup, List.nodup_singleton _, fun handle h h' => ?_⟩
    obtain ⟨task, htask, rfl⟩ := List.mem_map.1 h
    exact absurd (List.mem_singleton.1 h') (p.fresh task htask).ne

/-- The tasks with the handles leave the pool, if they still wait. -/
def cancel (handles : List ℕ) : TaskPool α where
  now := p.now
  waiting := p.waiting.filter (·.handle ∉ handles)
  nextHandle := p.nextHandle
  fresh task h := p.fresh task (List.mem_filter.1 h).1
  nodup := p.nodup.sublist (List.filter_sublist.map _)

def take (task : DelayedTask α) : TaskPool α := p.cancel [task.handle]

def advance (duration : ℕ) : TaskPool α :=
  { p with now := p.now + duration }

/-- A task waits and its delay has elapsed. -/
def Due (task : DelayedTask α) : Prop := task ∈ p.waiting ∧ task.dueTime ≤ p.now

variable {p} {task task' : DelayedTask α} {payload : α} {delay : ℕ} {handles : List ℕ}

theorem mem_submit : task ∈ (p.submit payload delay).waiting ↔
    task ∈ p.waiting ∨
      task = { handle := p.nextHandle, payload := payload, dueTime := p.now + delay } := by
  rw [submit, List.mem_append, List.mem_singleton]

@[simp] theorem mem_cancel :
    task ∈ (p.cancel handles).waiting ↔ task ∈ p.waiting ∧ task.handle ∉ handles := by
  rw [cancel, List.mem_filter, decide_eq_true_eq]

@[simp] theorem mem_take :
    task' ∈ (p.take task).waiting ↔ task' ∈ p.waiting ∧ task'.handle ≠ task.handle := by
  rw [take, mem_cancel, List.mem_singleton]

@[simp] theorem waiting_advance (duration : ℕ) : (p.advance duration).waiting = p.waiting := rfl

@[simp] theorem nextHandle_submit : (p.submit payload delay).nextHandle = p.nextHandle + 1 := rfl

@[simp] theorem nextHandle_cancel : (p.cancel handles).nextHandle = p.nextHandle := rfl

@[simp] theorem nextHandle_take : (p.take task).nextHandle = p.nextHandle := rfl

@[simp] theorem nextHandle_advance (duration : ℕ) : (p.advance duration).nextHandle = p.nextHandle :=
  rfl

theorem eq_of_handle (h : task ∈ p.waiting) (h' : task' ∈ p.waiting)
    (heq : task.handle = task'.handle) : task = task' :=
  List.inj_on_of_nodup_map p.nodup h h' heq

theorem ne_nextHandle (h : task ∈ p.waiting) : task.handle ≠ p.nextHandle := (p.fresh task h).ne

end TaskPool
