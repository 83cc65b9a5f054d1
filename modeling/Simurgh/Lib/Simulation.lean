import Simurgh.Lib.Exec

/-!
# Two programs that do the same

Programs over different states correspond if they end in the same way whenever they begin
in related states.
-/

namespace Exec

variable {σ τ ε α : Type}

/-- The same ending, and related states. -/
inductive Matches (related : σ → τ → Prop) : Outcome σ ε α → Outcome τ ε α → Prop where
  | ok (value : α) {first : σ} {second : τ} (relates : related first second) :
      Matches related (.ok value first) (.ok value second)
  | err (error : ε) {first : σ} {second : τ} (relates : related first second) :
      Matches related (.err error first) (.err error second)
  | panic : Matches related .panic .panic

/-- From related states the programs end in the same way. -/
def Simulates (related : σ → τ → Prop) (concrete : Exec σ ε α) (abstract : Exec τ ε α) : Prop :=
  ∀ first second, related first second →
    Matches related (concrete first) (abstract second)

theorem Matches.eq {left right : Outcome σ ε α} (matched : Matches (· = ·) left right) :
    left = right := by
  cases matched with
  | ok value relates => rw [relates]
  | err error relates => rw [relates]
  | panic => rfl

/-- What is left behind is related, however the programs ended. -/
theorem Matches.state? {related : σ → τ → Prop} {left : Outcome σ ε α} {right : Outcome τ ε α}
    (matched : Matches related left right) {first : σ} (ended : left.state? = some first) :
    ∃ second, related first second := by
  cases matched with
  | ok value relates =>
      rw [← Option.some.inj ended]
      exact ⟨_, relates⟩
  | err error relates =>
      rw [← Option.some.inj ended]
      exact ⟨_, relates⟩
  | panic => cases ended

end Exec
