import Mathlib.Tactic.Common

/-!
# Programs with a state, typed errors and panics

A call to a method that takes `&mut self` and returns a `Result` has three
kinds of outcome.  It returns a value, it returns an error, or it panics.  In
the first two cases the state it leaves behind is visible to the caller, also
when the call failed.  `Exec σ ε α` is the type of such calls.

The lemmas come in two groups.  The `_eq_ok` lemmas invert a successful run of
a compound program into runs of its parts.  The `Preserves` lemmas carry an
invariant of the state through a program, whatever way it ends.
-/

/-- How one call ends. -/
inductive Outcome (σ ε α : Type) where
  | ok (value : α) (state : σ)
  | err (error : ε) (state : σ)
  | panic
  deriving DecidableEq, Repr

namespace Outcome

variable {σ ε α : Type}

/-- The state left behind, unless the call panicked. -/
def state? : Outcome σ ε α → Option σ
  | ok _ state => some state
  | err _ state => some state
  | panic => none

/-- The value returned, if the call succeeded. -/
def value? : Outcome σ ε α → Option α
  | ok value _ => some value
  | err _ _ => none
  | panic => none

/-- The error returned, if the call failed. -/
def error? : Outcome σ ε α → Option ε
  | ok _ _ => none
  | err error _ => some error
  | panic => none

@[simp]
theorem state?_ok (value : α) (state : σ) :
    (ok value state : Outcome σ ε α).state? = some state := rfl

@[simp]
theorem state?_err (error : ε) (state : σ) :
    (err error state : Outcome σ ε α).state? = some state := rfl

@[simp]
theorem state?_panic : (panic : Outcome σ ε α).state? = none := rfl

@[simp]
theorem value?_ok (value : α) (state : σ) :
    (ok value state : Outcome σ ε α).value? = some value := rfl

@[simp]
theorem value?_err (error : ε) (state : σ) :
    (err error state : Outcome σ ε α).value? = none := rfl

theorem eq_ok_of_value? {outcome : Outcome σ ε α} {value : α}
    (succeeded : outcome.value? = some value) : ∃ state, outcome = ok value state := by
  cases outcome with
  | ok result state =>
      obtain rfl := Option.some.inj succeeded
      exact ⟨state, rfl⟩
  | err error state => simp at succeeded
  | panic => simp [value?] at succeeded

theorem eq_err_of_error? {outcome : Outcome σ ε α} {error : ε}
    (failed : outcome.error? = some error) : ∃ state, outcome = err error state := by
  cases outcome with
  | ok result state => cases failed
  | err other state =>
      obtain rfl := Option.some.inj failed
      exact ⟨state, rfl⟩
  | panic => cases failed

end Outcome

/-- A program over the state `σ` with errors `ε` and result `α`. -/
def Exec (σ ε α : Type) := σ → Outcome σ ε α

namespace Exec

variable {σ τ ε δ α β : Type}

instance : Monad (Exec σ ε) where
  pure value := fun state => .ok value state
  bind first next := fun state =>
    match first state with
    | .ok value later => next value later
    | .err error later => .err error later
    | .panic => .panic

/-- Return an error and keep the state. -/
def throw (error : ε) : Exec σ ε α := fun state => .err error state

/-- Abort. -/
def abort : Exec σ ε α := fun _ => .panic

/-- Read the state. -/
def get : Exec σ ε σ := fun state => .ok state state

/-- Update the state. -/
def modify (update : σ → σ) : Exec σ ε Unit := fun state => .ok () (update state)

/-- `option.ok_or(error)?`. -/
def okOr (error : ε) : Option α → Exec σ ε α
  | some value => pure value
  | none => throw error

/-- `result?`. -/
def ofExcept : Except ε α → Exec σ ε α
  | .ok value => pure value
  | .error error => throw error

/-- Continue with a value that is present, and abort when it is absent. -/
def expect : Option α → Exec σ ε α
  | some value => pure value
  | none => abort

/-- `if !condition { return Err(error) }`. -/
def guard (condition : Bool) (error : ε) : Exec σ ε Unit :=
  if condition then pure () else throw error

/-- `assert!(condition)`. -/
def ensure (condition : Bool) : Exec σ ε Unit :=
  if condition then pure () else abort

/-- `let _ = program;`, which drops the result and the error. -/
def attempt (program : Exec σ δ α) : Exec σ ε Unit := fun state =>
  match program state with
  | .ok _ later => .ok () later
  | .err _ later => .ok () later
  | .panic => .panic

/-- `program.ok()`, which keeps the value and drops the error. -/
def asOption (program : Exec σ δ α) : Exec σ ε (Option α) := fun state =>
  match program state with
  | .ok value later => .ok (some value) later
  | .err _ later => .ok none later
  | .panic => .panic

/-- Run a program on one part of the state.  `convert` is the `From` conversion
that `?` applies to its error. -/
def zoom (view : σ → τ) (store : τ → σ → σ) (convert : δ → ε)
    (inner : Exec τ δ α) : Exec σ ε α := fun state =>
  match inner (view state) with
  | .ok value part => .ok value (store part state)
  | .err error part => .err (convert error) (store part state)
  | .panic => .panic

/-! ## Running the primitives -/

@[simp]
theorem pure_run (value : α) (state : σ) :
    (pure value : Exec σ ε α) state = .ok value state := rfl

@[simp]
theorem throw_run (error : ε) (state : σ) :
    (throw error : Exec σ ε α) state = .err error state := rfl

@[simp]
theorem abort_run (state : σ) :
    (abort : Exec σ ε α) state = .panic := rfl

@[simp]
theorem get_run (state : σ) :
    (get : Exec σ ε σ) state = .ok state state := rfl

@[simp]
theorem modify_run (update : σ → σ) (state : σ) :
    (modify update : Exec σ ε Unit) state = .ok () (update state) := rfl

@[simp]
theorem okOr_some (error : ε) (value : α) :
    (okOr error (some value) : Exec σ ε α) = pure value := rfl

@[simp]
theorem okOr_none (error : ε) :
    (okOr error none : Exec σ ε α) = throw error := rfl

@[simp]
theorem ofExcept_ok (value : α) :
    (ofExcept (.ok value) : Exec σ ε α) = pure value := rfl

@[simp]
theorem ofExcept_error (error : ε) :
    (ofExcept (.error error) : Exec σ ε α) = throw error := rfl

@[simp]
theorem expect_some (value : α) :
    (expect (some value) : Exec σ ε α) = pure value := rfl

@[simp]
theorem expect_none : (expect none : Exec σ ε α) = abort := rfl

theorem bind_run (first : Exec σ ε α) (next : α → Exec σ ε β) (state : σ) :
    (first >>= next) state =
      match first state with
      | .ok value later => next value later
      | .err error later => .err error later
      | .panic => .panic := rfl

theorem bind_assoc {γ : Type} (first : Exec σ ε α) (next : α → Exec σ ε β)
    (rest : β → Exec σ ε γ) :
    (first >>= next) >>= rest = first >>= fun value => next value >>= rest := by
  funext state
  rw [bind_run, bind_run, bind_run]
  cases first state with
  | ok value later => rfl
  | err error later => rfl
  | panic => rfl

@[simp]
theorem pure_bind_run (value : α) (next : α → Exec σ ε β) (state : σ) :
    ((pure value : Exec σ ε α) >>= next) state = next value state := rfl

@[simp]
theorem throw_bind_run (error : ε) (next : α → Exec σ ε β) (state : σ) :
    ((throw error : Exec σ ε α) >>= next) state = .err error state := rfl

@[simp]
theorem abort_bind_run (next : α → Exec σ ε β) (state : σ) :
    ((abort : Exec σ ε α) >>= next) state = .panic := rfl

@[simp]
theorem get_bind_run (next : σ → Exec σ ε β) (state : σ) :
    ((get : Exec σ ε σ) >>= next) state = next state state := rfl

@[simp]
theorem modify_bind_run
    (update : σ → σ) (next : Unit → Exec σ ε β) (state : σ) :
    ((modify update : Exec σ ε Unit) >>= next) state =
      next () (update state) := rfl

/-- A guard lets a program go on, or ends it. -/
theorem guard_bind_run (condition : Bool) (error : ε) (next : Unit → Exec σ ε β) (state : σ) :
    ((guard condition error : Exec σ ε Unit) >>= next) state =
      if condition then next () state else .err error state := by
  cases condition with
  | false => rfl
  | true => rfl

theorem bind_of_ok
    {first : Exec σ ε α} {state later : σ} {value : α}
    (ran : first state = .ok value later) (next : α → Exec σ ε β) :
    (first >>= next) state = next value later := by
  rw [bind_run, ran]

theorem bind_of_err
    {first : Exec σ ε α} {state later : σ} {error : ε}
    (ran : first state = .err error later) (next : α → Exec σ ε β) :
    (first >>= next) state = .err error later := by
  rw [bind_run, ran]

/-! ## Inversion -/

theorem bind_eq_ok
    {first : Exec σ ε α} {next : α → Exec σ ε β}
    {state final : σ} {result : β} :
    (first >>= next) state = .ok result final ↔
      ∃ value later,
        first state = .ok value later ∧ next value later = .ok result final := by
  rw [bind_run]
  cases ran : first state with
  | ok value later => simp
  | err error later => simp
  | panic => simp

/-- A compound program leaves a state behind in one of two ways.  Its first
part fails there, or its second part starts where the first one succeeded. -/
theorem bind_state
    {first : Exec σ ε α} {next : α → Exec σ ε β} {state final : σ} :
    ((first >>= next) state).state? = some final ↔
      (∃ error, first state = .err error final) ∨
        ∃ value later,
          first state = .ok value later ∧
            (next value later).state? = some final := by
  rw [bind_run]
  cases ran : first state with
  | ok value later => simp
  | err error later => simp
  | panic => simp

theorem okOr_eq_ok {error : ε} {option : Option α} {state final : σ} {value : α} :
    okOr error option state = .ok value final ↔
      option = some value ∧ state = final := by
  cases option with
  | none => simp
  | some present => simp

theorem guard_eq_ok {condition : Bool} {error : ε} {state final : σ} :
    guard condition error state = .ok () final ↔
      condition = true ∧ state = final := by
  cases condition with
  | false => simp [guard]
  | true => simp [guard]

theorem ofExcept_eq_ok {result : Except ε α} {state final : σ} {value : α} :
    ofExcept result state = .ok value final ↔
      result = .ok value ∧ state = final := by
  cases result with
  | error error => simp
  | ok present => simp

theorem expect_eq_ok {option : Option α} {state final : σ} {value : α} :
    (expect option : Exec σ ε α) state = .ok value final ↔
      option = some value ∧ state = final := by
  cases option with
  | none => simp
  | some present => simp

theorem ensure_eq_ok {condition : Bool} {state final : σ} :
    (ensure condition : Exec σ ε Unit) state = .ok () final ↔
      condition = true ∧ state = final := by
  cases condition with
  | false => simp [ensure]
  | true => simp [ensure]

theorem attempt_eq_ok {program : Exec σ δ α} {state final : σ} :
    (attempt program : Exec σ ε Unit) state = .ok () final ↔
      (program state).state? = some final := by
  unfold attempt
  cases ran : program state with
  | ok value later => simp
  | err error later => simp
  | panic => simp

theorem attempt_state {program : Exec σ δ α} {state : σ} :
    ((attempt program : Exec σ ε Unit) state).state? = (program state).state? := by
  unfold attempt
  cases ran : program state with
  | ok value later => simp
  | err error later => simp
  | panic => simp

theorem asOption_state {program : Exec σ δ α} {state : σ} :
    ((asOption program : Exec σ ε (Option α)) state).state? =
      (program state).state? := by
  unfold asOption
  cases ran : program state with
  | ok value later => simp
  | err error later => simp
  | panic => simp

theorem exceptBind_eq_ok {first : Except ε α} {next : α → Except ε β} {result : β} :
    (first >>= next) = .ok result ↔
      ∃ value, first = .ok value ∧ next value = .ok result := by
  cases first with
  | error error => simp [bind, Except.bind]
  | ok value => simp [bind, Except.bind]

theorem zoom_eq_ok
    {view : σ → τ} {store : τ → σ → σ} {convert : δ → ε}
    {inner : Exec τ δ α} {state final : σ} {value : α} :
    zoom view store convert inner state = .ok value final ↔
      ∃ part, inner (view state) = .ok value part ∧
        store part state = final := by
  unfold zoom
  cases ran : inner (view state) with
  | ok result part => simp
  | err error part => simp
  | panic => simp

theorem zoom_state
    {view : σ → τ} {store : τ → σ → σ} {convert : δ → ε}
    {inner : Exec τ δ α} {state final : σ} :
    (zoom view store convert inner state).state? = some final ↔
      ∃ part, (inner (view state)).state? = some part ∧
        store part state = final := by
  unfold zoom
  cases ran : inner (view state) with
  | ok result part => simp
  | err error part => simp
  | panic => simp

theorem attempt_eq_panic {program : Exec σ δ α} {state : σ} :
    (attempt program : Exec σ ε Unit) state = .panic ↔ program state = .panic := by
  unfold attempt
  cases ran : program state with
  | ok value later => simp
  | err error later => simp
  | panic => simp

theorem zoom_eq_panic
    {view : σ → τ} {store : τ → σ → σ} {convert : δ → ε}
    {inner : Exec τ δ α} {state : σ} :
    zoom view store convert inner state = .panic ↔ inner (view state) = .panic := by
  unfold zoom
  cases ran : inner (view state) with
  | ok result part => simp
  | err error part => simp
  | panic => simp

/-! ## Programs that only read -/

/-- The program never changes the state. -/
def Reads (program : Exec σ ε α) : Prop :=
  ∀ state final, (program state).state? = some final → final = state

theorem Reads.pure (value : α) : Reads (pure value : Exec σ ε α) := by
  intro state final ended
  simpa using ended.symm

theorem Reads.throw (error : ε) : Reads (throw error : Exec σ ε α) := by
  intro state final ended
  simpa using ended.symm

theorem Reads.get : Reads (get : Exec σ ε σ) := by
  intro state final ended
  simpa using ended.symm

theorem Reads.okOr (error : ε) (option : Option α) :
    Reads (okOr error option : Exec σ ε α) := by
  cases option with
  | none => exact Reads.throw error
  | some value => exact Reads.pure value

theorem Reads.guard (condition : Bool) (error : ε) :
    Reads (guard condition error : Exec σ ε Unit) := by
  cases condition with
  | false => exact Reads.throw error
  | true => exact Reads.pure ()

theorem Reads.ofExcept (result : Except ε α) :
    Reads (ofExcept result : Exec σ ε α) := by
  cases result with
  | error error => exact Reads.throw error
  | ok value => exact Reads.pure value

theorem Reads.expect (option : Option α) :
    Reads (expect option : Exec σ ε α) := by
  cases option with
  | none =>
      intro state final ended
      simp at ended
  | some value => exact Reads.pure value

theorem Reads.bind
    {first : Exec σ ε α} {next : α → Exec σ ε β}
    (firstReads : Reads first) (nextReads : ∀ value, Reads (next value)) :
    Reads (first >>= next) := by
  intro state final ended
  rcases bind_state.1 ended with ⟨error, failed⟩ | ⟨value, later, ran, rest⟩
  · exact firstReads state final (by rw [failed]; rfl)
  · have unchanged : later = state :=
      firstReads state later (by rw [ran]; rfl)
    rw [← unchanged]
    exact nextReads value later final rest

theorem Reads.of_ok
    {program : Exec σ ε α} (reads : Reads program)
    {state final : σ} {value : α} (ran : program state = .ok value final) :
    final = state :=
  reads state final (by rw [ran]; rfl)

/-- A program that starts by reading fails there, or in what follows. -/
theorem Reads.bind_eq_err
    {first : Exec σ ε α} {next : α → Exec σ ε β} (reads : Reads first)
    {state final : σ} {error : ε} (failed : (first >>= next) state = .err error final) :
    final = state ∨ ∃ value, next value state = .err error final := by
  rw [bind_run] at failed
  cases ran : first state with
  | ok value later =>
      rw [ran] at failed
      obtain rfl := reads.of_ok ran
      exact Or.inr ⟨value, failed⟩
  | err early later =>
      rw [ran, Outcome.err.injEq] at failed
      exact Or.inl (reads state final (by rw [ran, failed.2]; rfl))
  | panic => simp [ran] at failed

/-! ## Programs that never panic -/

/-- The program returns, whatever state it starts in. -/
def Total (program : Exec σ ε α) : Prop :=
  ∀ state, program state ≠ .panic

theorem Total.pure (value : α) : Total (pure value : Exec σ ε α) := by
  intro state panicked
  simp at panicked

theorem Total.throw (error : ε) : Total (throw error : Exec σ ε α) := by
  intro state panicked
  simp at panicked

theorem Total.get : Total (get : Exec σ ε σ) := by
  intro state panicked
  simp at panicked

theorem Total.modify (update : σ → σ) : Total (modify update : Exec σ ε Unit) := by
  intro state panicked
  simp at panicked

theorem Total.okOr (error : ε) (option : Option α) :
    Total (okOr error option : Exec σ ε α) := by
  cases option with
  | none => exact Total.throw error
  | some value => exact Total.pure value

theorem Total.ofExcept (result : Except ε α) :
    Total (ofExcept result : Exec σ ε α) := by
  cases result with
  | error error => exact Total.throw error
  | ok value => exact Total.pure value

theorem Total.guard (condition : Bool) (error : ε) :
    Total (guard condition error : Exec σ ε Unit) := by
  cases condition with
  | false => exact Total.throw error
  | true => exact Total.pure ()

theorem Total.bind {first : Exec σ ε α} {next : α → Exec σ ε β}
    (firstTotal : Total first) (nextTotal : ∀ value, Total (next value)) :
    Total (first >>= next) := by
  intro state
  rw [bind_run]
  cases ran : first state with
  | ok value later => exact nextTotal value later
  | err error later => simp
  | panic => exact absurd ran (firstTotal state)

theorem Total.attempt {program : Exec σ δ α} (total : Total program) :
    Total (attempt program : Exec σ ε Unit) := by
  intro state panicked
  exact total state (attempt_eq_panic.1 panicked)

theorem Total.zoom {view : σ → τ} {store : τ → σ → σ} {convert : δ → ε}
    {inner : Exec τ δ α} (total : Total inner) :
    Total (zoom view store convert inner) := by
  intro state panicked
  exact total (view state) (zoom_eq_panic.1 panicked)

/-- A program that starts by reading panics in what follows. -/
theorem Reads.bind_eq_panic {first : Exec σ ε α} {next : α → Exec σ ε β}
    (reads : Reads first) (total : Total first) {state : σ}
    (panicked : (first >>= next) state = .panic) :
    ∃ value, first state = .ok value state ∧ next value state = .panic := by
  rw [bind_run] at panicked
  cases ran : first state with
  | ok value later =>
      rw [ran] at panicked
      obtain rfl := reads.of_ok ran
      exact ⟨value, rfl, panicked⟩
  | err error later => simp [ran] at panicked
  | panic => exact absurd ran (total state)

/-- A program that starts by reading returns if what follows does. -/
theorem Reads.bind_returns {first : Exec σ ε α} {next : α → Exec σ ε β}
    (reads : Reads first) (total : Total first) {state : σ}
    (rest : ∀ value, first state = .ok value state → next value state ≠ .panic) :
    (first >>= next) state ≠ .panic := by
  intro panicked
  obtain ⟨value, ran, later⟩ := reads.bind_eq_panic total panicked
  exact rest value ran later

/-- What follows a call that returns. -/
theorem bind_pure_returns {first : Exec σ ε α} {result : α → β} {state : σ}
    (returns : first state ≠ .panic) :
    (first >>= fun value => (pure (result value) : Exec σ ε β)) state ≠ .panic := by
  rw [bind_run]
  cases ran : first state with
  | ok value later => simp
  | err error later => simp
  | panic => exact absurd ran returns

/-! ## Invariants of the state -/

/-- Every state `program` leaves behind satisfies `after`, when it starts in
one that satisfies `before`. -/
def Leads (before after : σ → Prop) (program : Exec σ ε α) : Prop :=
  ∀ state final, before state → (program state).state? = some final → after final

/-- `invariant` holds after the program, whatever way it ended. -/
def Preserves (invariant : σ → Prop) (program : Exec σ ε α) : Prop :=
  Leads invariant invariant program

theorem Reads.preserves
    {program : Exec σ ε α} (reads : Reads program) (invariant : σ → Prop) :
    Preserves invariant program := by
  intro state final holds ended
  rw [reads state final ended]
  exact holds

theorem Preserves.modify
    {invariant : σ → Prop} {update : σ → σ}
    (step : ∀ state, invariant state → invariant (update state)) :
    Preserves invariant (modify update : Exec σ ε Unit) := by
  intro state final holds ended
  simp only [modify_run, Outcome.state?_ok, Option.some.injEq] at ended
  rw [← ended]
  exact step state holds

theorem Preserves.attempt {invariant : σ → Prop} {program : Exec σ δ α}
    (preserves : Preserves invariant program) :
    Preserves invariant (attempt program : Exec σ ε Unit) := by
  intro state final holds ended
  rw [attempt_state] at ended
  exact preserves state final holds ended

theorem Preserves.bind
    {invariant : σ → Prop}
    {first : Exec σ ε α} {next : α → Exec σ ε β}
    (firstPreserves : Preserves invariant first)
    (nextPreserves : ∀ value, Preserves invariant (next value)) :
    Preserves invariant (first >>= next) := by
  intro state final holds ended
  rcases bind_state.1 ended with ⟨error, failed⟩ | ⟨value, later, ran, rest⟩
  · exact firstPreserves state final holds (by rw [failed]; rfl)
  · have middle : invariant later :=
      firstPreserves state later holds (by rw [ran]; rfl)
    exact nextPreserves value later final middle rest

/-! ## Steps -/

section Steps

variable {relation : σ → σ → Prop}

/-- Whatever way the program ends, it ends in a state related to its first one. -/
def Steps (relation : σ → σ → Prop) (program : Exec σ ε α) : Prop :=
  ∀ state final, (program state).state? = some final → relation state final

theorem Reads.steps {program : Exec σ ε α} (reads : Reads program)
    (refl : ∀ state, relation state state) : Steps relation program := by
  intro state final ended
  rw [reads state final ended]
  exact refl state

theorem Steps.bind {first : Exec σ ε α} {next : α → Exec σ ε β}
    (trans : ∀ {before middle after}, relation before middle → relation middle after →
      relation before after)
    (firstSteps : Steps relation first) (nextSteps : ∀ value, Steps relation (next value)) :
    Steps relation (first >>= next) := by
  intro state final ended
  rcases bind_state.1 ended with ⟨error, failed⟩ | ⟨value, later, ran, rest⟩
  · exact firstSteps state final (by rw [failed]; rfl)
  · have head : relation state later := firstSteps state later (by rw [ran]; rfl)
    exact trans head (nextSteps value later final rest)

end Steps

end Exec
