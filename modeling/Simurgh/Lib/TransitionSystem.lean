import Mathlib.Tactic.Common

/-!
# Runs of a transition system

A run takes steps one after another.  `admits` restricts the steps a run may
take, which is how a condition on the environment, or on one party, is
expressed.  `Reaches.invariant` is the induction over runs, done once.
-/

/-- Initial states and labelled steps. -/
structure TransitionSystem (σ ℓ : Type) where
  Initial : σ → Prop
  Step : σ → ℓ → σ → Prop

namespace TransitionSystem

variable {σ ℓ : Type} (system : TransitionSystem σ ℓ)

/-- Zero or more steps, each admitted in the state it starts from. -/
inductive Reaches (admits : σ → ℓ → Prop) : σ → σ → Prop where
  | refl (state : σ) : Reaches admits state state
  | step {start middle final : σ} {label : ℓ}
      (run : Reaches admits start middle)
      (admitted : admits middle label)
      (taken : system.Step middle label final) : Reaches admits start final

/-- The states of the runs that start in an initial state. -/
def Reachable (admits : σ → ℓ → Prop) (state : σ) : Prop :=
  ∃ start, system.Initial start ∧ system.Reaches admits start state

/-- Every step is admitted. -/
def anyStep : σ → ℓ → Prop := fun _ _ => True

variable {system} {admits : σ → ℓ → Prop}

theorem Reaches.mono {weaker : σ → ℓ → Prop} {start final : σ}
    (run : system.Reaches admits start final)
    (weaken : ∀ state label, admits state label → weaker state label) :
    system.Reaches weaker start final := by
  induction run with
  | refl => exact .refl _
  | step _ admitted taken ih =>
      exact ih.step (weaken _ _ admitted) taken

/-- What admitted steps preserve, runs preserve. -/
theorem Reaches.invariant {invariant : σ → Prop} {start final : σ}
    (run : system.Reaches admits start final) (holds : invariant start)
    (preserved : ∀ before label after, admits before label → invariant before →
      system.Step before label after → invariant after) :
    invariant final := by
  induction run with
  | refl => exact holds
  | step _ admitted taken ih =>
      exact preserved _ _ _ admitted ih taken

/-- What holds initially and is preserved by admitted steps holds in every
reachable state. -/
theorem Reachable.invariant {invariant : σ → Prop} {state : σ}
    (reachable : system.Reachable admits state)
    (initially : ∀ start, system.Initial start → invariant start)
    (preserved : ∀ before label after, admits before label → invariant before →
      system.Step before label after → invariant after) :
    invariant state := by
  obtain ⟨start, isInitial, run⟩ := reachable
  exact run.invariant (initially start isInitial) preserved

theorem Reachable.mono {weaker : σ → ℓ → Prop} {state : σ}
    (reachable : system.Reachable admits state)
    (weaken : ∀ state label, admits state label → weaker state label) :
    system.Reachable weaker state := by
  obtain ⟨start, isInitial, run⟩ := reachable
  exact ⟨start, isInitial, run.mono weaken⟩

theorem Reachable.step {before after : σ} {label : ℓ}
    (reachable : system.Reachable admits before)
    (admitted : admits before label) (taken : system.Step before label after) :
    system.Reachable admits after := by
  obtain ⟨start, isInitial, run⟩ := reachable
  exact ⟨start, isInitial, run.step admitted taken⟩

/-! ## Histories -/

section Histories

variable {η : Type} (record : σ → ℓ → σ → η → η)

/-- The system with a history beside each state, which no step depends on. -/
def recording (system : TransitionSystem σ ℓ) (record : σ → ℓ → σ → η → η) (start : η) :
    TransitionSystem (σ × η) ℓ where
  Initial state := system.Initial state.1 ∧ state.2 = start
  Step before label after :=
    system.Step before.1 label after.1 ∧
      after.2 = record before.1 label after.1 before.2

end Histories

/-! ## Running a list of labels -/

section Run

variable {next : σ → ℓ → Option σ} {decides : σ → ℓ → Bool}

/-- Take the steps of a deterministic system, each in a state that admits it. -/
def runWhile (next : σ → ℓ → Option σ) (decides : σ → ℓ → Bool) : List ℓ → σ → Option σ
  | [], state => some state
  | label :: rest, state =>
      if decides state label then
        match next state label with
        | some later => runWhile next decides rest later
        | none => none
      else none

theorem Reaches.runWhile
    (steps : ∀ before label after, next before label = some after →
      system.Step before label after)
    {labels : List ℓ} {start before after : σ}
    (run : system.Reaches (fun state label => decides state label = true) start before)
    (ran : TransitionSystem.runWhile next decides labels before = some after) :
    system.Reaches (fun state label => decides state label = true) start after := by
  induction labels generalizing before with
  | nil =>
      obtain rfl := Option.some.inj ran
      exact run
  | cons label rest ih =>
      rw [TransitionSystem.runWhile] at ran
      cases admitted : decides before label with
      | false => simp [admitted] at ran
      | true =>
          rw [admitted, if_pos rfl] at ran
          cases taken : next before label with
          | none => simp [taken] at ran
          | some later =>
              rw [taken] at ran
              exact ih (run.step admitted (steps _ _ _ taken)) ran

/-- The next state and its history. -/
def nextRecorded {η : Type} (next : σ → ℓ → Option σ) (record : σ → ℓ → σ → η → η)
    (before : σ × η) (label : ℓ) : Option (σ × η) :=
  (next before.1 label).map fun after => (after, record before.1 label after before.2)

theorem step_of_nextRecorded {η : Type} {record : σ → ℓ → σ → η → η} {start : η}
    (steps : ∀ before label after, next before label = some after →
      system.Step before label after)
    {before after : σ × η} {label : ℓ}
    (taken : nextRecorded next record before label = some after) :
    (system.recording record start).Step before label after := by
  obtain ⟨later, ran, rfl⟩ := Option.map_eq_some_iff.1 taken
  exact ⟨steps _ _ _ ran, rfl⟩

/-- Every label meets a condition on the state in which it comes, up to the first label that
is not taken. -/
def Throughout (next : σ → ℓ → Option σ) (condition : σ → ℓ → Prop) (state : σ) :
    List ℓ → Prop
  | [] => True
  | label :: rest => condition state label ∧
      ∀ later, next state label = some later → Throughout next condition later rest

/-- What a condition gives, as long as it keeps the invariant that this takes. -/
theorem Throughout.imp {invariant : σ → Prop} {condition other : σ → ℓ → Prop}
    (keeps : ∀ state label later, invariant state → condition state label →
      next state label = some later → invariant later)
    (gives : ∀ state label, invariant state → condition state label → other state label)
    {state : σ} (holds : invariant state) {labels : List ℓ}
    (throughout : Throughout next condition state labels) :
    Throughout next other state labels := by
  induction labels generalizing state with
  | nil => trivial
  | cons label rest ih =>
      obtain ⟨met, onward⟩ := throughout
      constructor
      · exact gives state label holds met
      · intro later taken
        exact ih (keeps state label later holds met taken) (onward later taken)

/-- Conditions that agree where an invariant holds. -/
theorem throughout_congr {invariant : σ → Prop} {condition other : σ → ℓ → Prop}
    (keeps : ∀ state label later, invariant state → next state label = some later →
      invariant later)
    (agree : ∀ state label, invariant state → (condition state label ↔ other state label))
    {state : σ} (holds : invariant state) (labels : List ℓ) :
    Throughout next condition state labels ↔ Throughout next other state labels := by
  induction labels generalizing state with
  | nil => exact Iff.rfl
  | cons label rest ih =>
      apply and_congr (agree state label holds)
      apply forall₂_congr
      intro later taken
      exact ih (keeps state label later holds taken)

end Run

end TransitionSystem
