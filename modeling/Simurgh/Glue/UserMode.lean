import Simurgh.Glue.Conduct

/-!
# User mode

User threads execute until a trap takes them into the kernel, and the trap vector goes on
with the thread that the handler has named.  It should be the one that the scheduler
runs.
-/

namespace Simurgh

/-- The thread has a record, and the record says that it must not run. -/
def KernelState.Halted (state : KernelState) (tid : ThreadId) : Prop :=
  ∃ threadState, state.threadState tid = some threadState ∧ threadState ≠ .runnable

/-- A machine whose user threads execute. -/
structure UserMode (μ : Type) where
  glue : Glue μ
  current : ThreadId
  /-- How the last trap has ended. -/
  ended : Option TrapOutcome

namespace UserMode

variable {μ : Type}

/-- The machine when a handler starts, with an empty trace. -/
def entered (state : UserMode μ) : Glue μ := { state.glue with trace := .empty }

/-- The thread that executes is the one that the scheduler runs, and the scheduler will
run nobody who must not. -/
structure Orderly (state : UserMode μ) : Prop where
  running : state.glue.kernel.sched.running = some state.current
  runs : state.glue.kernel.sched.runState state.current = some .running
  resting : Resting state.glue.kernel.Halted state.glue.kernel

/-- No message is on its way to the registers of a thread. -/
def Unpending (kernel : KernelState) : Prop :=
  ∀ tid tcb, kernel.tcb tid = some tcb → tcb.pendingFrom = none ∧ tcb.pendingMsg = none

variable (arch : Architecture) (clock : Nat → Nat) (hal : HalInterface μ)

/-- From the moment at which user mode is entered, every trap is served. -/
def system : TransitionSystem (UserMode μ) Trap where
  Initial start :=
    start.Orderly ∧ (start.glue.kernel.tcb start.glue.kernel.rootThread).isSome ∧
      Unpending start.glue.kernel ∧ start.ended = none
  Step before trap after :=
    ∃ outcome later, GlueM.handle arch clock hal trap before.entered = .ok outcome later ∧
      after =
        { glue := later, current := outcome.resumed before.current, ended := some outcome }

/-- The machine after a trap, if its handler has returned. -/
def next (before : UserMode μ) (trap : Trap) : Option (UserMode μ) :=
  match GlueM.handle arch clock hal trap before.entered with
  | .ok outcome later =>
      some
        { glue := later, current := outcome.resumed before.current, ended := some outcome }
  | _ => none

theorem step_of_next (before : UserMode μ) (trap : Trap) (after : UserMode μ)
    (taken : next arch clock hal before trap = some after) :
    (system arch clock hal).Step before trap after := by
  unfold next at taken
  split at taken
  · next outcome later ran =>
    exact ⟨outcome, later, ran, (Option.some.inj taken).symm⟩
  · cases taken

end UserMode

namespace GlueM

variable {μ : Type} (arch : Architecture) (clock : Nat → Nat) (hal : HalInterface μ)

/-- Every handler conducts itself on behalf of somebody. -/
theorem conducts_handle (trap : Trap) (glue : Glue μ) :
    ∃ caller, ConductsAt caller .anyhow (handle arch clock hal trap) glue := by
  have free : Manner.anyhow ≠ .prepares := by decide
  cases trap with
  | syscall opcode a0 a1 choices => exact ⟨_, conducts_serve clock hal _ a0 a1 choices glue⟩
  | tick => exact ⟨0, conducts_orResume (conducts_p2Tick clock free) glue⟩
  | fault cause =>
      refine ⟨0, Conducts.bind (conducts_p2Fault clock free cause).optional (fun heir => ?_) glue⟩
      cases heir with
      | some into => exact .pure _
      | none => exact .pure _
  | device line =>
      exact ⟨0, Conducts.bind (conducts_irqTrampoline clock free line) (fun _ => .pure _) glue⟩

end GlueM

namespace UserMode

variable {μ : Type} {arch : Architecture} {clock : Nat → Nat} {hal : HalInterface μ}

/-- What a trap does is a sequence of moves. -/
theorem moves_of_step {before after : UserMode μ} {trap : Trap}
    (taken : (system arch clock hal).Step before trap after) :
    ∃ caller, Glue.Moves caller .anyhow before.entered after.glue := by
  obtain ⟨outcome, later, ran, rfl⟩ := taken
  obtain ⟨caller, final, ended, moves⟩ :=
    GlueM.conducts_handle arch clock hal trap before.entered
  rw [ran] at ended
  obtain rfl := Option.some.inj ended
  exact ⟨caller, moves⟩

/-- The root task keeps its record. -/
theorem root_recorded {admits : UserMode μ → Trap → Prop} {state : UserMode μ}
    (reachable : (system arch clock hal).Reachable admits state) :
    (state.glue.kernel.tcb state.glue.kernel.rootThread).isSome := by
  refine reachable.invariant (fun start initial => initial.2.1) ?_
  intro before trap after _ recorded taken
  obtain ⟨caller, moves⟩ := moves_of_step taken
  rw [moves.rootThread]
  exact moves.recorded recorded

end UserMode

end Simurgh
