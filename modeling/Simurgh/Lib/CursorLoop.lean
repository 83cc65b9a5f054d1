import Mathlib.Tactic.Common

/-!
# Loops that move a cursor

Each iteration of a loop ends it with a result, goes on with another state, or goes wrong.  A
loop completes if it ends with a result after iterations that all move a cursor forward.
-/

/-- What an iteration leads to. -/
inductive Iteration (σ ρ : Type) where
  | again (state : σ)
  | done (result : ρ)

namespace CursorLoop

variable {σ ρ ε : Type} (step : σ → Except ε (Iteration σ ρ)) (cursor : σ → Nat)

/-- The loop ends with the result, and every iteration before the last moves the cursor
forward. -/
inductive Completes : σ → ρ → Prop where
  | done {state : σ} {result : ρ} (ends : step state = .ok (.done result)) :
      Completes state result
  | again {state later : σ} {result : ρ} (goes : step state = .ok (.again later))
      (forward : cursor state < cursor later) (rest : Completes later result) :
      Completes state result

/-- So many iterations at most. -/
def run : (fuel : Nat) → σ → Option (Except ε ρ)
  | 0, _ => none
  | fuel + 1, state =>
      match step state with
      | .error fault => some (.error fault)
      | .ok (.done result) => some (.ok result)
      | .ok (.again later) => run fuel later

variable {step cursor} {state : σ} {result other : ρ}

/-- With enough iterations the loop returns its result. -/
theorem Completes.run (completes : Completes step cursor state result) :
    ∃ fuel, ∀ more, fuel ≤ more → run step more state = some (.ok result) := by
  induction completes with
  | done ends =>
      refine ⟨1, fun more enough => ?_⟩
      obtain ⟨rest, rfl⟩ := Nat.exists_eq_add_of_le' enough
      rw [CursorLoop.run, ends]
  | again goes _ _ ih =>
      obtain ⟨fuel, returns⟩ := ih
      refine ⟨fuel + 1, fun more enough => ?_⟩
      obtain ⟨rest, rfl⟩ := Nat.exists_eq_add_of_le' enough
      rw [← Nat.add_assoc, CursorLoop.run, goes]
      exact returns _ (Nat.le_add_left _ _)

/-- More iterations do not change what the loop returns. -/
theorem run_mono {fuel more : Nat} {outcome : Except ε ρ} (enough : fuel ≤ more)
    (returns : run step fuel state = some outcome) : run step more state = some outcome := by
  induction fuel generalizing more state with
  | zero => cases returns
  | succ fuel ih =>
      obtain ⟨rest, rfl⟩ := Nat.exists_eq_add_of_le' enough
      rw [← Nat.add_assoc, CursorLoop.run]
      rw [CursorLoop.run] at returns
      split at returns
      · next fault failed => exact returns
      · next result ends => exact returns
      · next later goes => exact ih (Nat.le_add_left _ _) returns

/-- The loop returns one result, with whatever number of iterations. -/
theorem run_unique {fuel more : Nat}
    (returns : run step fuel state = some (.ok result))
    (again : run step more state = some (.ok other)) : result = other := by
  have longer := run_mono (Nat.le_add_right fuel more) returns
  have same := run_mono (Nat.le_add_left more fuel) again
  exact Except.ok.inj (Option.some.inj (longer.symm.trans same))

end CursorLoop
