import Mathlib.Algebra.Order.Ring.Nat
import Mathlib.Logic.Function.Basic
import Simurgh.Lib.Histories
import Simurgh.Lib.TransitionSystem

/-!
# Loops around a compare-exchange

Threads share one cell.  For each request a thread loads the cell, computes what to do with what it
has seen, and gives an answer at once or exchanges the cell, which misses if the cell has changed.
After a miss it starts again.  However the threads interleave, each request takes effect at one
moment between its call and its return.
-/

namespace CompareExchange

variable {ι ρ σ α : Type}

/-- What to do with a value that was seen. -/
inductive Attempt (σ α : Type) where
  | give (answer : α)
  | exchange (new : σ) (answer : α)

def Attempt.answer : Attempt σ α → α
  | give answer => answer
  | exchange _ answer => answer

/-- The cell after the attempt. -/
def Attempt.apply : Attempt σ α → σ → σ
  | give _, cell => cell
  | exchange new _, _ => new

/-- Where a thread is in its loop. -/
inductive Control (ρ σ : Type) where
  | idle
  | loading (request : ρ)
  | loaded (request : ρ) (seen : σ)

/-- A request takes effect when it is committed. -/
inductive Event (ι ρ α : Type) where
  | call (thread : ι) (request : ρ)
  | commit (thread : ι) (request : ρ) (answer : α)
  | ret (thread : ι) (request : ρ) (answer : α)

def Event.thread : Event ι ρ α → ι
  | call thread _ => thread
  | commit thread _ _ => thread
  | ret thread _ _ => thread

/-- The cell and the threads.  How often a thread has missed, and the events, the newest first, are
not part of the program. -/
structure State (ι ρ σ α : Type) where
  cell : σ
  control : ι → Control ρ σ
  misses : ι → Nat
  history : List (Event ι ρ α)

inductive Label (ι ρ : Type) where
  | call (thread : ι) (request : ρ)
  | go (thread : ι)

section Program

variable [DecidableEq ι] [DecidableEq σ] (attempt : ρ → σ → Attempt σ α)

/-- A call, or the next access of a thread to the cell. -/
def next (state : State ι ρ σ α) : Label ι ρ → Option (State ι ρ σ α)
  | .call thread request =>
      match state.control thread with
      | .idle =>
          some { state with
            control := Function.update state.control thread (.loading request)
            misses := Function.update state.misses thread 0
            history := .call thread request :: state.history }
      | _ => none
  | .go thread =>
      match state.control thread with
      | .idle => none
      | .loading request =>
          some { state with
            control := Function.update state.control thread (.loaded request state.cell)
            history :=
              match attempt request state.cell with
              | .give answer => .commit thread request answer :: state.history
              | .exchange _ _ => state.history }
      | .loaded request seen =>
          match attempt request seen with
          | .give answer =>
              some { state with
                control := Function.update state.control thread .idle
                history := .ret thread request answer :: state.history }
          | .exchange new answer =>
              if state.cell = seen then
                some { state with
                  cell := new
                  control := Function.update state.control thread .idle
                  history := .ret thread request answer :: .commit thread request answer ::
                    state.history }
              else
                some { state with
                  control := Function.update state.control thread (.loading request)
                  misses := Function.update state.misses thread (state.misses thread + 1) }

/-- What a step can do. -/
inductive Step (state : State ι ρ σ α) : State ι ρ σ α → Prop where
  | call (thread : ι) (request : ρ) (standing : state.control thread = .idle) :
      Step state { state with
        control := Function.update state.control thread (.loading request)
        misses := Function.update state.misses thread 0
        history := .call thread request :: state.history }
  | decide (thread : ι) (request : ρ) (answer : α)
      (standing : state.control thread = .loading request) (tries : attempt request state.cell = .give answer) :
      Step state { state with
        control := Function.update state.control thread (.loaded request state.cell)
        history := .commit thread request answer :: state.history }
  | see (thread : ι) (request : ρ) (new : σ) (answer : α)
      (standing : state.control thread = .loading request)
      (tries : attempt request state.cell = .exchange new answer) :
      Step state { state with
        control := Function.update state.control thread (.loaded request state.cell) }
  | giveBack (thread : ι) (request : ρ) (seen : σ) (answer : α)
      (standing : state.control thread = .loaded request seen)
      (tries : attempt request seen = .give answer) :
      Step state { state with
        control := Function.update state.control thread .idle
        history := .ret thread request answer :: state.history }
  | exchange (thread : ι) (request : ρ) (new : σ) (answer : α)
      (standing : state.control thread = .loaded request state.cell)
      (tries : attempt request state.cell = .exchange new answer) :
      Step state { state with
        cell := new
        control := Function.update state.control thread .idle
        history := .ret thread request answer :: .commit thread request answer :: state.history }
  | miss (thread : ι) (request : ρ) (seen new : σ) (answer : α)
      (standing : state.control thread = .loaded request seen)
      (tries : attempt request seen = .exchange new answer) (changed : state.cell ≠ seen) :
      Step state { state with
        control := Function.update state.control thread (.loading request)
        misses := Function.update state.misses thread (state.misses thread + 1) }

variable {attempt}

theorem step_of_next {state later : State ι ρ σ α} {label : Label ι ρ}
    (taken : next attempt state label = some later) : Step attempt state later := by
  cases label with
  | call thread request =>
      rw [next] at taken
      split at taken
      next standing =>
        cases taken
        exact .call thread request standing
      next => cases taken
  | go thread =>
      rw [next] at taken
      split at taken
      next => cases taken
      next request standing =>
        cases taken
        cases tries : attempt request state.cell with
        | give answer => exact .decide thread request answer standing tries
        | exchange new answer => exact .see thread request new answer standing tries
      next request seen standing =>
        split at taken
        next answer tries =>
          cases taken
          exact .giveBack thread request seen answer standing tries
        next new answer tries =>
          split at taken
          next unchanged =>
            subst unchanged
            cases taken
            exact .exchange thread request new answer standing tries
          next changed =>
            cases taken
            exact .miss thread request seen new answer standing tries changed

variable (attempt)

def system (start : σ) : TransitionSystem (State ι ρ σ α) (Label ι ρ) where
  Initial state := state.cell = start ∧ (∀ thread, state.control thread = .idle) ∧
    (∀ thread, state.misses thread = 0) ∧ state.history = []
  Step before label after := next attempt before label = some after

end Program

/-! ## One after another -/

/-- Each request is committed once, between its call and its return. -/
inductive Follows : Option (Event ι ρ α) → Event ι ρ α → Prop where
  | first (thread : ι) (request : ρ) : Follows none (.call thread request)
  | again (thread : ι) (request next : ρ) (answer : α) :
      Follows (some (.ret thread request answer)) (.call thread next)
  | commit (thread : ι) (request : ρ) (answer : α) :
      Follows (some (.call thread request)) (.commit thread request answer)
  | ret (thread : ι) (request : ρ) (answer : α) :
      Follows (some (.commit thread request answer)) (.ret thread request answer)

section Linear

variable [DecidableEq ι] (attempt : ρ → σ → Attempt σ α) (start : σ)

/-- The last event of a thread. -/
def lastOf (thread : ι) (history : List (Event ι ρ α)) : Option (Event ι ρ α) :=
  history.find? fun event => event.thread = thread

/-- The cell, if the requests are done one after another as they were committed. -/
def valueAfter : List (Event ι ρ α) → σ
  | [] => start
  | .commit _ request _ :: older => (attempt request (valueAfter older)).apply (valueAfter older)
  | _ :: older => valueAfter older

/-- An event comes when its thread is there, and with the answer that a thread alone would get. -/
def Fits (older : List (Event ι ρ α)) (event : Event ι ρ α) : Prop :=
  Follows (lastOf event.thread older) event ∧
    ∀ thread request answer, event = .commit thread request answer →
      answer = (attempt request (valueAfter attempt start older)).answer

/-- Where the last event of a thread leaves it. -/
def Stands (control : Control ρ σ) (thread : ι) (last : Option (Event ι ρ α)) : Prop :=
  match control with
  | .idle => ∀ request, Follows last (.call thread request)
  | .loading request => last = some (.call thread request)
  | .loaded request seen =>
      match attempt request seen with
      | .give answer => last = some (.commit thread request answer)
      | .exchange _ _ => last = some (.call thread request)

structure Linear (state : State ι ρ σ α) : Prop where
  cell : state.cell = valueAfter attempt start state.history
  fits : AtEveryEntry (Fits attempt start) state.history
  stands : ∀ thread, Stands attempt (state.control thread) thread (lastOf thread state.history)

variable {attempt start}

@[simp]
theorem lastOf_cons_self (event : Event ι ρ α) (older : List (Event ι ρ α)) :
    lastOf event.thread (event :: older) = some event := by
  rw [lastOf, List.find?_cons_of_pos (by simp)]

theorem lastOf_cons_of_ne {thread : ι} {event : Event ι ρ α} (other : event.thread ≠ thread)
    (older : List (Event ι ρ α)) : lastOf thread (event :: older) = lastOf thread older := by
  rw [lastOf, List.find?_cons_of_neg (by simpa using other), lastOf]

/-- A step moves one thread. -/
theorem stands_update {control : ι → Control ρ σ} {older newer : List (Event ι ρ α)} {thread : ι}
    {moved : Control ρ σ}
    (stands : ∀ other, Stands attempt (control other) other (lastOf other older))
    (others : ∀ other, other ≠ thread → lastOf other newer = lastOf other older)
    (here : Stands attempt moved thread (lastOf thread newer)) (other : ι) :
    Stands attempt (Function.update control thread moved other) other (lastOf other newer) := by
  by_cases same : other = thread
  · subst same
    rw [Function.update_self]
    exact here
  · rw [Function.update_of_ne same, others other same]
    exact stands other

/-- A step keeps what was done one after another. -/
theorem Linear.step {state later : State ι ρ σ α} (linear : Linear attempt start state)
    (steps : Step attempt state later) : Linear attempt start later := by
  obtain ⟨cell, fits, stands⟩ := linear
  cases steps with
  | call thread request standing =>
      have follows := stands thread
      rw [standing] at follows
      refine ⟨cell, ⟨fits, follows request, nofun⟩, stands_update stands ?_ ?_⟩
      · exact fun other ne => lastOf_cons_of_ne (Ne.symm ne) _
      · exact lastOf_cons_self (.call thread request) _
  | decide thread request answer standing tries =>
      have called := stands thread
      rw [standing, Stands] at called
      have value : attempt request (valueAfter attempt start state.history) = .give answer :=
        cell ▸ tries
      refine ⟨?_, ⟨fits, ?_, ?_⟩, stands_update stands ?_ ?_⟩
      · rw [valueAfter, value]
        exact cell
      · rw [Event.thread, called]
        exact .commit thread request answer
      · rintro _ _ _ ⟨⟩
        rw [value, Attempt.answer]
      · exact fun other ne => lastOf_cons_of_ne (Ne.symm ne) _
      · rw [Stands, tries]
        exact lastOf_cons_self (.commit thread request answer) _
  | see thread request new answer standing tries =>
      have called := stands thread
      rw [standing, Stands] at called
      refine ⟨cell, fits, stands_update stands (fun _ _ => rfl) ?_⟩
      rw [Stands, tries]
      exact called
  | giveBack thread request seen answer standing tries =>
      have committed := stands thread
      rw [standing, Stands, tries] at committed
      refine ⟨cell, ⟨fits, ?_, nofun⟩, stands_update stands ?_ ?_⟩
      · rw [Event.thread, committed]
        exact .ret thread request answer
      · exact fun other ne => lastOf_cons_of_ne (Ne.symm ne) _
      · intro next
        rw [show lastOf thread _ = _ from lastOf_cons_self (.ret thread request answer) _]
        exact .again thread request next answer
  | exchange thread request new answer standing tries =>
      have called := stands thread
      rw [standing, Stands, tries] at called
      have value : attempt request (valueAfter attempt start state.history) =
          .exchange new answer := cell ▸ tries
      refine ⟨?_, ⟨⟨fits, ?_, ?_⟩, ?_, nofun⟩, stands_update stands ?_ ?_⟩
      · change new = (attempt request (valueAfter attempt start state.history)).apply _
        rw [value, Attempt.apply]
      · rw [Event.thread, called]
        exact .commit thread request answer
      · rintro _ _ _ ⟨⟩
        rw [value, Attempt.answer]
      · rw [Event.thread,
          show lastOf thread _ = _ from lastOf_cons_self (.commit thread request answer) _]
        exact .ret thread request answer
      · intro other ne
        rw [lastOf_cons_of_ne (Ne.symm ne), lastOf_cons_of_ne (Ne.symm ne)]
      · intro next
        rw [show lastOf thread _ = _ from lastOf_cons_self (.ret thread request answer) _]
        exact .again thread request next answer
  | miss thread request seen new answer standing tries changed =>
      have called := stands thread
      rw [standing, Stands, tries] at called
      exact ⟨cell, fits, stands_update stands (fun _ _ => rfl) called⟩

/-- However the threads interleave, the requests are done one after another. -/
theorem linear_of_reachable [DecidableEq σ] {admits : State ι ρ σ α → Label ι ρ → Prop}
    {state : State ι ρ σ α} (reachable : (system attempt start).Reachable admits state) :
    Linear attempt start state := by
  refine reachable.invariant ?_ fun _ _ _ _ linear taken => linear.step (step_of_next taken)
  rintro first ⟨rfl, idle, -, nothing⟩
  refine ⟨by rw [nothing, valueAfter], by rw [nothing]; trivial, fun thread => ?_⟩
  rw [idle, nothing]
  exact fun request => .first thread request

end Linear

/-! ## Misses -/

section Misses

variable [DecidableEq ι] {attempt : ρ → σ → Attempt σ α} (valid : σ → Prop) (rank : σ → Nat)

/-- A thread misses only if the cell has grown since it was loaded. -/
structure Counts (state : State ι ρ σ α) : Prop where
  valid : valid state.cell
  bounded : ∀ thread, state.misses thread ≤ rank state.cell
  loaded : ∀ thread request seen, state.control thread = .loaded request seen →
    state.misses thread ≤ rank seen ∧ (state.cell = seen ∨ rank seen < rank state.cell)

variable {valid rank}

theorem Counts.step {state later : State ι ρ σ α} (counts : Counts valid rank state)
    (grows : ∀ request cell new answer, valid cell →
      attempt request cell = .exchange new answer →
      valid new ∧ (new = cell ∨ rank cell < rank new))
    (steps : Step attempt state later) : Counts valid rank later := by
  obtain ⟨inside, bounded, loaded⟩ := counts
  -- Only the thread that moves can have loaded something new.
  have others : ∀ {thread : ι} {moved : Control ρ σ} {other : ι} {request : ρ} {seen : σ},
      Function.update state.control thread moved other = .loaded request seen →
      other = thread ∧ moved = .loaded request seen ∨
        other ≠ thread ∧ state.control other = .loaded request seen := by
    intro thread moved other request seen at'
    by_cases same : other = thread
    · subst same
      rw [Function.update_self] at at'
      exact Or.inl ⟨rfl, at'⟩
    · rw [Function.update_of_ne same] at at'
      exact Or.inr ⟨same, at'⟩
  cases steps with
  | call thread request standing =>
      refine ⟨inside, fun other => ?_, fun other asked seen at' => ?_⟩
      · by_cases same : other = thread
        · subst same
          change Function.update state.misses other 0 other ≤ _
          rw [Function.update_self]
          exact Nat.zero_le _
        · change Function.update state.misses thread 0 other ≤ _
          rw [Function.update_of_ne same]
          exact bounded other
      · obtain ⟨-, ⟨⟩⟩ | ⟨ne, at'⟩ := others at'
        change Function.update state.misses thread 0 other ≤ rank seen ∧ _
        rw [Function.update_of_ne ne]
        exact loaded other asked seen at'
  | decide thread request answer standing tries =>
      refine ⟨inside, bounded, fun other asked seen at' => ?_⟩
      obtain ⟨rfl, ⟨⟩⟩ | ⟨-, at'⟩ := others at'
      · exact ⟨bounded other, Or.inl rfl⟩
      · exact loaded other asked seen at'
  | see thread request new answer standing tries =>
      refine ⟨inside, bounded, fun other asked seen at' => ?_⟩
      obtain ⟨rfl, ⟨⟩⟩ | ⟨-, at'⟩ := others at'
      · exact ⟨bounded other, Or.inl rfl⟩
      · exact loaded other asked seen at'
  | giveBack thread request seen answer standing tries =>
      refine ⟨inside, bounded, fun other asked seen at' => ?_⟩
      obtain ⟨-, ⟨⟩⟩ | ⟨-, at'⟩ := others at'
      exact loaded other asked seen at'
  | exchange thread request new answer standing tries =>
      obtain ⟨insideNew, grown⟩ := grows _ _ _ _ inside tries
      have larger : rank state.cell ≤ rank new := by
        rcases grown with rfl | larger
        · exact le_rfl
        · exact larger.le
      refine ⟨insideNew, fun other => (bounded other).trans larger, fun other asked seen at' => ?_⟩
      obtain ⟨-, ⟨⟩⟩ | ⟨-, at'⟩ := others at'
      obtain ⟨below, rfl | since⟩ := loaded other asked seen at'
      · exact ⟨below, grown⟩
      · exact ⟨below, Or.inr (since.trans_le larger)⟩
  | miss thread request seen new answer standing tries changed =>
      obtain ⟨below, since⟩ := loaded thread request seen standing
      have grown : rank seen < rank state.cell := since.resolve_left changed
      refine ⟨inside, fun other => ?_, fun other asked seen at' => ?_⟩
      · by_cases same : other = thread
        · subst same
          change Function.update state.misses other (state.misses other + 1) other ≤ _
          rw [Function.update_self]
          exact Nat.succ_le_of_lt (below.trans_lt grown)
        · change Function.update state.misses thread (state.misses thread + 1) other ≤ _
          rw [Function.update_of_ne same]
          exact bounded other
      · obtain ⟨-, ⟨⟩⟩ | ⟨ne, at'⟩ := others at'
        change Function.update state.misses thread (state.misses thread + 1) other ≤ rank _ ∧ _
        rw [Function.update_of_ne ne]
        exact loaded other asked seen at'

/-- A thread misses at most as often as the cell can grow. -/
theorem counts_of_reachable [DecidableEq σ] {start : σ}
    {admits : State ι ρ σ α → Label ι ρ → Prop} {state : State ι ρ σ α} (starts : valid start)
    (grows : ∀ request cell new answer, valid cell →
      attempt request cell = .exchange new answer →
      valid new ∧ (new = cell ∨ rank cell < rank new))
    (reachable : (system attempt start).Reachable admits state) : Counts valid rank state := by
  refine reachable.invariant ?_ fun _ _ _ _ counts taken => counts.step grows (step_of_next taken)
  rintro first ⟨rfl, idle, fresh, -⟩
  refine ⟨starts, fun other => (fresh other).trans_le (Nat.zero_le _),
    fun other request seen at' => ?_⟩
  rw [idle] at at'
  cases at'

end Misses

end CompareExchange
