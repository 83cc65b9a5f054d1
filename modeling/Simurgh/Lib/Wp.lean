import Simurgh.Lib.Exec

/-!
# Weakest preconditions

`wp program post state` says that the program, started in `state`, ends as `post` says,
whether it returns a value or an error.  Nothing is said of a run that panics.
-/

namespace Exec

variable {σ τ ε δ α β : Type}

def wp (program : Exec σ ε α) (post : Except ε α → σ → Prop) (state : σ) : Prop :=
  match program state with
  | .ok value later => post (.ok value) later
  | .err error later => post (.error error) later
  | .panic => True

variable {post other : Except ε α → σ → Prop} {state : σ}

/-- How a program ends, seen through its weakest precondition. -/
theorem wp_iff {program : Exec σ ε α} :
    wp program post state ↔
      (∀ value later, program state = .ok value later → post (.ok value) later) ∧
        ∀ error later, program state = .err error later → post (.error error) later := by
  unfold wp
  cases ran : program state with
  | ok value later => simp
  | err error later => simp
  | panic => simp

theorem wp.of_ok {program : Exec σ ε α} (holds : wp program post state) {value : α}
    {later : σ} (ran : program state = .ok value later) : post (.ok value) later :=
  (wp_iff.1 holds).1 value later ran

theorem wp_of_eq_ok {program : Exec σ ε α} {value : α} {later : σ}
    (ran : program state = .ok value later) :
    wp program post state ↔ post (.ok value) later := by
  unfold wp
  rw [ran]

/-- A weaker postcondition is reached from more states. -/
theorem wp.mono {program : Exec σ ε α} (holds : wp program post state)
    (weaker : ∀ result later, post result later → other result later) :
    wp program other state := by
  rw [wp_iff] at *
  constructor
  · intro value later ran
    exact weaker _ _ (holds.1 value later ran)
  · intro error later failed
    exact weaker _ _ (holds.2 error later failed)

@[simp]
theorem wp_pure (value : α) :
    wp (pure value : Exec σ ε α) post state ↔ post (.ok value) state := Iff.rfl

@[simp]
theorem wp_throw (error : ε) :
    wp (throw error : Exec σ ε α) post state ↔ post (.error error) state := Iff.rfl

@[simp]
theorem wp_get {post : Except ε σ → σ → Prop} :
    wp (get : Exec σ ε σ) post state ↔ post (.ok state) state := Iff.rfl

@[simp]
theorem wp_modify {post : Except ε Unit → σ → Prop} (update : σ → σ) :
    wp (modify update : Exec σ ε Unit) post state ↔ post (.ok ()) (update state) := Iff.rfl

@[simp]
theorem wp_bind {first : Exec σ ε α} {next : α → Exec σ ε β}
    {post : Except ε β → σ → Prop} :
    wp (first >>= next) post state ↔
      wp first
        (fun result later =>
          match result with
          | .ok value => wp (next value) post later
          | .error error => post (.error error) later)
        state := by
  unfold wp
  rw [bind_run]
  cases first state with
  | ok value later => rfl
  | err error later => rfl
  | panic => rfl

/-! ## What a program can return -/

/-- Every value that the program returns satisfies `holds`. -/
def Yields (holds : α → Prop) (program : Exec σ ε α) : Prop :=
  ∀ state value later, program state = .ok value later → holds value

theorem Yields.pure {holds : α → Prop} {value : α} (good : holds value) :
    Yields holds (pure value : Exec σ ε α) := by
  intro state result later ran
  have same : value = result := (Outcome.ok.inj ran).1
  exact same ▸ good

theorem Yields.throw {holds : α → Prop} (error : ε) :
    Yields holds (throw error : Exec σ ε α) := by
  intro state result later ran
  simp at ran

theorem Yields.bind {between : α → Prop} {holds : β → Prop} {first : Exec σ ε α}
    {next : α → Exec σ ε β} (firstYields : Yields between first)
    (nextYields : ∀ value, between value → Yields holds (next value)) :
    Yields holds (first >>= next) := by
  intro state value later ran
  obtain ⟨middle, state', first, second⟩ := bind_eq_ok.1 ran
  exact nextYields middle (firstYields state middle state' first) state' value later second

/-- Whatever comes first. -/
theorem Yields.after {holds : β → Prop} {first : Exec σ ε α} {next : α → Exec σ ε β}
    (nextYields : ∀ value, Yields holds (next value)) : Yields holds (first >>= next) := by
  have anything : Yields (fun _ => True) first := fun _ _ _ _ => trivial
  exact anything.bind fun value _ => nextYields value

theorem Yields.okOr {holds : α → Prop} {error : ε} {option : Option α}
    (good : ∀ value, option = some value → holds value) :
    Yields holds (okOr error option : Exec σ ε α) := by
  cases option with
  | none => exact Yields.throw error
  | some value => exact Yields.pure (good value rfl)

end Exec
