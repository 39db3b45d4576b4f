import DeviceUsageStats.Spec.UninstallGuard

/-! The guard is right as long as no task of an older uninstall fires while the task of the latest one is
still to come. -/

namespace DeviceUsageStats
namespace UninstallGuard

variable {g : UninstallGuard} {uid uid' : ℤ} {task : DelayedTask ℤ}

theorem isUninstalledApp_iff : g.isUninstalledApp uid = true ↔ uid ∈ g.bundleUninstalledSet := .rfl

theorem mem_addbundleUninstalledUid :
    uid ∈ (g.addbundleUninstalledUid uid').bundleUninstalledSet ↔
      uid' = uid ∨ uid ∈ g.bundleUninstalledSet := by
  rw [addbundleUninstalledUid, Std.TreeSet.mem_insert, Std.LawfulEqCmp.compare_eq_iff_eq]

theorem mem_removeUid : uid ∈ (g.removeUid task).bundleUninstalledSet ↔
    task.payload ≠ uid ∧ uid ∈ g.bundleUninstalledSet := by
  rw [removeUid, Std.TreeSet.mem_erase, ne_eq, Std.LawfulEqCmp.compare_eq_iff_eq]

theorem mem_onBundleInstalled : uid ∈ (g.onBundleInstalled uid').bundleUninstalledSet ↔
    uid' ≠ uid ∧ uid ∈ g.bundleUninstalledSet := by
  have herase : uid ∈ g.bundleUninstalledSet.erase uid' ↔
      uid' ≠ uid ∧ uid ∈ g.bundleUninstalledSet := by
    rw [Std.TreeSet.mem_erase, ne_eq, Std.LawfulEqCmp.compare_eq_iff_eq]
  unfold onBundleInstalled
  split_ifs with hset
  · cases g.taskMap[uid']? <;> exact herase
  · refine ⟨fun h => ⟨?_, h⟩, And.right⟩
    rintro rfl
    exact hset h

theorem tasks_onBundleInstalled (g : UninstallGuard) (uid : ℤ) :
    (∀ task ∈ (g.onBundleInstalled uid).tasks.waiting, task ∈ g.tasks.waiting) ∧
      (g.onBundleInstalled uid).tasks.nextHandle = g.tasks.nextHandle := by
  unfold onBundleInstalled
  split_ifs
  · cases g.taskMap[uid]? with
    | none => exact ⟨fun _ h => h, rfl⟩
    | some handle => exact ⟨fun _ h => (TaskPool.mem_cancel.1 h).1, rfl⟩
  · exact ⟨fun _ h => h, rfl⟩

def Pending (g : UninstallGuard) (handle : ℕ) : Prop :=
  ∃ task ∈ g.tasks.waiting, task.handle = handle

/-- What the set is to say of a uid after its latest call. -/
def Fits (g : UninstallGuard) (uid : ℤ) : LatestCall → Prop
  | .none | .uninstalled none => True
  | .uninstalling => uid ∈ g.bundleUninstalledSet
  | .uninstalled (some handle) => handle < g.tasks.nextHandle ∧
      (g.Pending handle → uid ∈ g.bundleUninstalledSet)
  | .installed => uid ∉ g.bundleUninstalledSet

theorem Fits.of_same {g' : UninstallGuard} {call : LatestCall} (h : g.Fits uid call)
    (hset : uid ∈ g'.bundleUninstalledSet ↔ uid ∈ g.bundleUninstalledSet)
    (hnext : g.tasks.nextHandle ≤ g'.tasks.nextHandle)
    (hwaiting : ∀ task ∈ g'.tasks.waiting,
      task ∈ g.tasks.waiting ∨ g.tasks.nextHandle ≤ task.handle) : g'.Fits uid call := by
  cases call with
  | none => trivial
  | uninstalling => exact hset.2 h
  | installed => exact fun hmem => h (hset.1 hmem)
  | uninstalled posted =>
    cases posted with
    | none => trivial
    | some handle =>
      refine ⟨h.1.trans_le hnext, ?_⟩
      rintro ⟨task, htask, rfl⟩
      exact hset.2 (h.2 ⟨task, (hwaiting task htask).resolve_right (not_le.2 h.1), rfl⟩)

end UninstallGuard

namespace GuardState

open UninstallGuard

variable {s : GuardState} {uid : ℤ} {handle : ℕ}

structure Guards (s : GuardState) : Prop where
  uninstalled : ∀ uid handle, s.latest uid = .uninstalled (some handle) → s.Pending handle →
    s.isUninstalledApp uid = true
  installed : ∀ uid, s.latest uid = .installed → s.isUninstalledApp uid = false

/-- A task that fires is not one of an uninstall before the latest, whose own task is on its way or still
waits. -/
def FiresInOrder (s : GuardState) : GuardOp → Prop
  | .fire task => s.latest task.payload ≠ .uninstalling ∧
      ∀ handle, s.latest task.payload = .uninstalled (some handle) → s.Pending handle →
        handle = task.handle
  | _ => True

structure Inv (s : GuardState) : Prop where
  fits : ∀ uid, s.Fits uid (s.latest uid)
  call : ∀ uid, s.uninstalling = some uid → s.latest uid = .uninstalling

theorem Inv.guards (inv : Inv s) : Guards s where
  uninstalled uid handle hlatest hpending := by
    have hfits := inv.fits uid
    rw [hlatest] at hfits
    exact hfits.2 hpending
  installed uid hlatest := by
    have hfits := inv.fits uid
    rw [hlatest] at hfits
    exact Bool.eq_false_iff.2 hfits

theorem fits_update {g : UninstallGuard} {call : LatestCall} (inv : Inv s)
    (hown : g.Fits uid call)
    (hothers : ∀ uid' call', uid' ≠ uid → s.Fits uid' call' → g.Fits uid' call') (uid' : ℤ) :
    g.Fits uid' (Function.update s.latest uid call uid') := by
  by_cases hne : uid' = uid
  · rw [hne, Function.update_self]
    exact hown
  · rw [Function.update_of_ne hne]
    exact hothers uid' _ hne (inv.fits uid')

theorem inv_apply (inv : Inv s) (op : GuardOp) (enabled : s.Enabled op) (inOrder : FiresInOrder s op) :
    Inv (s.apply op) := by
  cases op with
  | uninstall uid =>
    refine ⟨fits_update inv (mem_addbundleUninstalledUid.2 (.inl rfl)) fun uid' call hne h => ?_,
      fun uid' hcall => ?_⟩
    · exact h.of_same (mem_addbundleUninstalledUid.trans (or_iff_right (Ne.symm hne))) le_rfl
        fun _ => .inl
    · obtain rfl := Option.some.inj hcall
      exact Function.update_self ..
  | post uid =>
    refine ⟨fits_update inv ⟨Nat.lt_succ_self _, fun _ => ?_⟩ fun uid' call hne h => ?_,
      fun _ hcall => by cases hcall⟩
    -- the first half has put the uid in, and no task has fired since
    · have hfits := inv.fits uid
      rw [inv.call uid enabled] at hfits
      exact hfits
    · refine h.of_same .rfl (Nat.le_succ _) fun task htask => ?_
      rcases TaskPool.mem_submit.1 htask with hold | rfl
      · exact .inl hold
      · exact .inr le_rfl
  | uninstallFails uid =>
    have hnone : s.uninstalling = none := enabled
    exact ⟨fits_update inv trivial fun _ _ _ h => h, fun _ hcall => by cases hnone.symm.trans hcall⟩
  | install uid =>
    obtain ⟨hwaiting, hnext⟩ := tasks_onBundleInstalled s.toUninstallGuard uid
    have hnone : s.uninstalling = none := enabled
    refine ⟨fits_update inv (fun h => (mem_onBundleInstalled.1 h).1 rfl) fun uid' call hne h => ?_,
      fun _ hcall => by cases hnone.symm.trans hcall⟩
    exact h.of_same (mem_onBundleInstalled.trans (and_iff_right (Ne.symm hne))) hnext.ge
      fun task htask => .inl (hwaiting task htask)
  | fire task =>
    refine ⟨fun uid => ?_, inv.call⟩
    have hfits := inv.fits uid
    by_cases hne : task.payload = uid
    · subst hne
      change (s.removeUid task).Fits task.payload (s.latest task.payload)
      cases hlatest : s.latest task.payload with
      | none => trivial
      | uninstalling => exact absurd hlatest inOrder.1
      | installed => exact fun h => (mem_removeUid.1 h).1 rfl
      | uninstalled posted =>
        cases posted with
        | none => trivial
        | some handle =>
          rw [hlatest] at hfits
          refine ⟨hfits.1, ?_⟩
          rintro ⟨later, hlater, rfl⟩
          obtain ⟨hwaiting, hnot⟩ := TaskPool.mem_take.1 hlater
          exact absurd (inOrder.2 _ hlatest ⟨later, hwaiting, rfl⟩) hnot
    · refine hfits.of_same ?_ le_rfl fun later hlater => .inl (TaskPool.mem_take.1 hlater).1
      exact mem_removeUid.trans (and_iff_right hne)
  | advance duration => exact ⟨fun uid => (inv.fits uid).of_same .rfl le_rfl fun _ => .inl, inv.call⟩

/-- In every run whose tasks fire in the order of their uninstalls the guard is right. -/
theorem guards_run (run : Run FiresInOrder s) : Guards s := by
  have inv : Inv s := by
    induction run with
    | init => exact ⟨fun _ => trivial, fun _ hcall => by cases hcall⟩
    | step op _ enabled inOrder ih => exact inv_apply ih op enabled inOrder
  exact inv.guards

/-- A task of an older uninstall takes the uid out, although the latest uninstall's task still waits. -/
theorem not_guards_fire (handle : ℕ) {task : DelayedTask ℤ}
    (hlatest : s.latest task.payload = .uninstalled (some handle)) (hpending : s.Pending handle)
    (hne : handle ≠ task.handle) : ¬ Guards (s.apply (.fire task)) := by
  intro h
  obtain ⟨later, hlater, rfl⟩ := hpending
  have hguards := h.uninstalled task.payload later.handle hlatest
    ⟨later, TaskPool.mem_take.2 ⟨hlater, hne⟩, rfl⟩
  exact (mem_removeUid.1 (isUninstalledApp_iff.1 hguards)).1 rfl

/-! ### Runs with two removal broadcasts -/

/-- A second removal broadcast one second after the first. -/
def uninstalledTwice : GuardState :=
  (((((({} : GuardState).apply (.uninstall 20010001)).apply (.post 20010001)).apply
    (.advance 1000000)).apply (.uninstall 20010001)).apply (.post 20010001)).apply (.advance 4000000)

def firstTask : DelayedTask ℤ := { handle := 0, payload := 20010001, dueTime := 5000000 }

theorem run_uninstalledTwice {Allowed : GuardState → GuardOp → Prop}
    (h : ∀ s op, (∀ task, op ≠ .fire task) → Allowed s op) : Run Allowed uninstalledTwice := by
  refine .step (.advance 4000000) (.step (.post 20010001) (.step (.uninstall 20010001)
    (.step (.advance 1000000) (.step (.post 20010001) (.step (.uninstall 20010001) .init ?_ ?_)
    ?_ ?_) ?_ ?_) ?_ ?_) ?_ ?_) ?_ ?_
  all_goals first
    | exact h _ _ (fun _ heq => by cases heq)
    | trivial

/-- After five seconds the first task ends the guard that the second uninstall began. -/
theorem guard_ends_early : Run (fun _ _ => True) (uninstalledTwice.apply (.fire firstTask)) ∧
    ¬ Guards (uninstalledTwice.apply (.fire firstTask)) := by
  refine ⟨.step _ (run_uninstalledTwice fun _ _ _ => trivial) ?_ trivial, ?_⟩
  · exact ⟨by decide +kernel, by decide +kernel⟩
  · refine not_guards_fire 1 rfl ⟨⟨1, 20010001, 6000000⟩, ?_, rfl⟩ (by decide)
    decide +kernel

theorem guards_run_uninstalledTwice : Guards uninstalledTwice := by
  refine guards_run (run_uninstalledTwice fun s op hop => ?_)
  cases op with
  | fire task => exact absurd rfl (hop task)
  | _ => trivial

end GuardState
end DeviceUsageStats
