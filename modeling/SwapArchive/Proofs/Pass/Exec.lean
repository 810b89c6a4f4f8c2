import Mathlib
import SwapArchive.Ingest.Run

/-!
# Running a pass

`PassM.exec x s` is what a pass `x` does from the world `s`: its outcome and the world after it.
The equations here take a pass apart one combinator at a time (`exec_bind`, `exec_attempt`,
`exec_always`, `exec_exclusive`), so that statements about the passes follow their code step by
step and never unfold the monad.

`exclusive_skip` and `exclusive_taken` say what the lock around a pass does: when another run
holds it, nothing happens beyond asking; otherwise the body runs and the lock is freed after it,
whether the body failed or not.
-/

namespace SwapArchive

namespace PassM

variable {σ α β : Type}

/-- The outcome of a pass from a world, and the world after it. -/
def exec (x : PassM σ α) (s : σ) : Except PassError α × σ := x.run.run s

@[simp] theorem exec_pure (a : α) (s : σ) : exec (pure a : PassM σ α) s = (.ok a, s) := rfl

@[simp] theorem exec_throw (e : PassError) (s : σ) : exec (throw e : PassM σ α) s = (.error e, s) := rfl

@[simp] theorem exec_modify (f : σ → σ) (s : σ) : exec (modify f : PassM σ Unit) s = (.ok (), f s) := rfl

@[simp] theorem exec_get (s : σ) : exec (get : PassM σ σ) s = (.ok s, s) := rfl

@[simp] theorem exec_perform (f : σ → α × σ) (s : σ) : exec (perform f) s = (.ok (f s).1, (f s).2) := rfl

@[simp] theorem exec_lift (m : StateM σ α) (s : σ) :
    exec (ExceptT.lift m : PassM σ α) s = (.ok (m.run s).1, (m.run s).2) := rfl

@[simp] theorem exec_ite (c : Prop) [Decidable c] (x y : PassM σ α) (s : σ) :
    exec (if c then x else y) s = if c then exec x s else exec y s := by
  split <;> rfl

/-- A bound pass runs its first part, and the rest only if the first part did not fail. -/
theorem exec_bind (x : PassM σ α) (f : α → PassM σ β) (s : σ) :
    exec (x >>= f) s = match exec x s with
      | (.ok a, s') => exec (f a) s'
      | (.error e, s') => (.error e, s') := by
  unfold exec
  simp only [ExceptT.run_bind, StateT.run_bind]
  rcases x.run.run s with ⟨_ | _, s'⟩ <;> rfl

/-- A `do` block that binds the outcome of an `if` runs the same rest after either branch. -/
theorem exec_ite_bind (c : Prop) [Decidable c] (x y : PassM σ α) (f : α → PassM σ β) (s : σ) :
    exec (if c then x >>= f else y >>= f) s = exec ((if c then x else y) >>= f) s := by
  split <;> rfl

/-- A transition that may fail: its failure, wrapped, ends the pass. -/
@[simp] theorem exec_attempt {ε : Type} (f : σ → Except ε α × σ) (wrap : ε → PassError) (s : σ) :
    exec (attempt f wrap) s = match f s with
      | (.ok a, s') => (.ok a, s')
      | (.error e, s') => (.error (wrap e), s') := by
  unfold attempt
  rw [exec_bind, exec_perform]
  rcases f s with ⟨_ | _, s'⟩ <;> rfl

/-- The cleanup runs after the body whatever the body's outcome, which stands unless the cleanup
itself fails. -/
theorem exec_always (body : PassM σ α) (cleanup : PassM σ Unit) (s : σ) :
    exec (always body cleanup) s =
      match exec cleanup (exec body s).2 with
      | (.ok (), s') => ((exec body s).1, s')
      | (.error e, s') => (.error e, s') := by
  unfold always
  rw [exec_bind, exec_lift]
  dsimp only
  rw [exec_bind]
  have hrun : (ExceptT.run body).run s = exec body s := rfl
  rw [hrun]
  rcases exec body s with ⟨r, s1⟩
  rcases exec cleanup s1 with ⟨_ | _, s2⟩ <;> cases r <;> rfl

/-- A pass run inside a transition of the world is the pass's outcome and the world after it. -/
@[simp] theorem run_run (x : PassM σ α) (s : σ) : (ExceptT.run x).run s = exec x s := rfl

/-! Transitions of the world that cannot fail, taken apart the same way. -/

theorem stateM_run_bind (x : StateM σ α) (f : α → StateM σ β) (s : σ) :
    (x >>= f).run s = (f (x.run s).1).run (x.run s).2 := rfl

@[simp] theorem stateM_run_modifyGet (f : σ → α × σ) (s : σ) : (modifyGet f : StateM σ α).run s = f s := rfl

@[simp] theorem stateM_run_modify (f : σ → σ) (s : σ) : (modify f : StateM σ Unit).run s = ((), f s) := rfl

@[simp] theorem stateM_run_pure (a : α) (s : σ) : (pure a : StateM σ α).run s = (a, s) := rfl

/-- A transition made only when `c` holds, before the rest: the rest runs from where it left. -/
theorem stateM_run_ite_modify (c : Prop) [Decidable c] (f : σ → σ) (k : StateM σ α) (s : σ) :
    (if c then modify f >>= (fun _ => k) else k).run s = k.run (if c then f s else s) := by
  split <;> rfl

/-- A report changes the world as the report service says and never fails. -/
@[simp] theorem exec_report (svc : Services σ) (p : Progress) (s : σ) :
    exec (report svc p) s = (.ok (), svc.report p s) := rfl

/-- When another run holds the lock, asking for it is all that happens. -/
theorem exclusive_skip {svc : Services σ} {key : String} {s s' : σ} (body : PassM σ Unit)
    (h : svc.tryLock key s = (false, s')) : exec (exclusive svc key body) s = (.ok (), s') := by
  unfold exclusive
  rw [exec_bind, exec_perform, h]
  rfl

/-- When the lock is taken, the body runs and the lock is freed after it; the body's outcome is
the pass's. -/
theorem exclusive_taken {svc : Services σ} {key : String} {s s' : σ} (body : PassM σ Unit)
    (h : svc.tryLock key s = (true, s')) :
    exec (exclusive svc key body) s = ((exec body s').1, svc.unlock key (exec body s').2) := by
  unfold exclusive
  rw [exec_bind, exec_perform, h]
  simp only [ite_true]
  rw [exec_always, exec_modify]

end PassM

end SwapArchive
