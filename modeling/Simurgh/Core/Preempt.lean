import Simurgh.Core.Effect

/-!
# Ticks, starting and termination

What the kernel does to threads outside of syscalls.  Saving and restoring
register frames is left to the trap vector.
-/

namespace Simurgh

/-- What one tick resolved to. -/
inductive PreemptStep where
  | switch (outgoing incoming : ThreadId)
  | «continue»
  | idle
  deriving DecidableEq, Repr

inductive TerminationOutcome where
  | switched (incoming : ThreadId)
  | idle
  deriving DecidableEq, Repr

namespace KernelState

/-- `let _ = self.sched.call(..);`. -/
def quietly (program : Exec KScheduler SchedError Unit) :
    Exec KernelState SyscallError Unit :=
  Exec.attempt (onSched program)

def accountNow (nowNs : Nat) : Exec KernelState SyscallError Unit :=
  Exec.modify fun state => { state with sched := state.sched.account nowNs }

/-- One tick of the preemptive scheduler. -/
def preemptTick (nowNs : Nat) : Exec KernelState SyscallError PreemptStep := do
  let before ← Exec.get
  accountNow nowNs
  let state ← Exec.get
  match before.sched.running, state.sched.pickNext with
  | some outgoing, some incoming => do
      if incoming ≠ outgoing then
        quietly (Scheduler.dispatch incoming nowNs)
        return .switch outgoing incoming
      else
        quietly (Scheduler.dispatch outgoing nowNs)
        return .continue
  | some outgoing, none => do
      -- Nothing else is ready: the thread that was charged goes on.
      quietly (Scheduler.noteReady outgoing nowNs)
      quietly (Scheduler.dispatch outgoing nowNs)
      return .continue
  | none, some incoming => do
      quietly (Scheduler.dispatch incoming nowNs)
      return .continue
  | none, none => return .idle

/-- Make a new thread runnable and register it with the given priority. -/
def admitThread (tid : ThreadId) (entry priority nowNs : Nat) :
    Exec KernelState SyscallError Unit := do
  Exec.modify <| updateTcb tid fun tcb => { tcb with entry, state := .runnable }
  quietly (Scheduler.admitThread tid .interactive priority none)
  quietly (Scheduler.noteReady tid nowNs)

/-- Start a user thread. -/
def initUserThread (tid : ThreadId) (entry nowNs : Nat) :
    Exec KernelState SyscallError Unit :=
  admitThread tid entry maxPriority nowNs

/-- Start a kernel thread. -/
def startThread (tid : ThreadId) (entry nowNs : Nat) :
    Exec KernelState SyscallError Unit :=
  admitThread tid entry 20 nowNs

/-- The first part of both terminations: charge the thread, mark it and forget it. -/
def exitThread (tid : ThreadId) (nowNs : Nat) : Exec KernelState SyscallError Unit := do
  let state ← Exec.get
  if state.sched.running = some tid then accountNow nowNs
  Exec.modify <| updateTcb tid fun tcb => { tcb with state := .exited }
  Exec.modify fun state => { state with sched := state.sched.remove tid }

/-- Kill a thread and let the scheduler pick another one. -/
def terminateThread (tid : ThreadId) (nowNs : Nat) :
    Exec KernelState SyscallError TerminationOutcome := do
  exitThread tid nowNs
  let state ← Exec.get
  match state.sched.pickNext with
  | some incoming => do
      quietly (Scheduler.dispatch incoming nowNs)
      return .switched incoming
  | none => return .idle

/-- Kill a thread and run `incoming` next. -/
def terminateThreadAndHandoff (tid incoming : ThreadId) (nowNs : Nat) :
    Exec KernelState SyscallError Unit := do
  exitThread tid nowNs
  quietly (Scheduler.dispatch incoming nowNs)

/-- Give the processor to the least other ready thread. -/
def cooperativeYield (nowNs : Nat) : Exec KernelState SyscallError PreemptStep := do
  let before ← Exec.get
  accountNow nowNs
  match before.sched.running with
  | some outgoing => do
      quietly (Scheduler.noteBlocked outgoing)
      let state ← Exec.get
      quietly (Scheduler.noteReady outgoing nowNs)
      match state.sched.pickNext with
      | some incoming => do
          if incoming ≠ outgoing then
            quietly (Scheduler.dispatch incoming nowNs)
            return .switch outgoing incoming
          else
            quietly (Scheduler.dispatch outgoing nowNs)
            return .continue
      | none => do
          quietly (Scheduler.dispatch outgoing nowNs)
          return .continue
  | none => do
      let state ← Exec.get
      match state.sched.pickNext with
      | some incoming => do
          quietly (Scheduler.dispatch incoming nowNs)
          return .continue
      | none => return .idle

/-- Block a thread until it is woken, unless nothing else is ready. -/
def blockThread (tid : ThreadId) (nowNs : Nat) :
    Exec KernelState SyscallError PreemptStep := do
  accountNow nowNs
  quietly (Scheduler.noteBlocked tid)
  let state ← Exec.get
  match state.sched.pickNext with
  | some incoming => do
      if incoming ≠ tid then
        quietly (Scheduler.dispatch incoming nowNs)
        return .switch tid incoming
      else
        quietly (Scheduler.noteReady tid nowNs)
        quietly (Scheduler.dispatch tid nowNs)
        return .continue
  | none => do
      quietly (Scheduler.noteReady tid nowNs)
      quietly (Scheduler.dispatch tid nowNs)
      return .continue

/-- Block a thread and run another one. -/
def yieldToThread (source target : ThreadId) (nowNs : Nat) :
    Exec KernelState SyscallError PreemptStep := do
  accountNow nowNs
  quietly (Scheduler.noteBlocked source)
  quietly (Scheduler.dispatch target nowNs)
  return .switch source target

/-- The buffers between which a switch moves registers, named by their threads. -/
def userCtxSwitchPtrs (outgoing incoming : ThreadId) (state : KernelState) :
    Option (ThreadId × ThreadId) :=
  if outgoing = incoming ∨ maxThreads ≤ outgoing ∨ maxThreads ≤ incoming then none
  else do
    let _ ← state.tcb outgoing
    let _ ← state.tcb incoming
    return (outgoing, incoming)

/-! ## What they do -/

section Spec

variable {tid : ThreadId} {nowNs : Nat} {state final : KernelState}

theorem quietly_run {program : Exec KScheduler SchedError Unit} {later : KScheduler}
    (ends : (program state.sched).state? = some later) :
    quietly program state = .ok () { state with sched := later } :=
  Exec.attempt_eq_ok.2 (Exec.zoom_state.2 ⟨later, ends, rfl⟩)

/-- A tick only charges the running thread and chooses the next one. -/
theorem preemptTick_state (ended : (preemptTick nowNs state).state? = some final) :
    ∃ sched, final = { state with sched } ∧
      (sched = state.sched.account nowNs ∨
        (∃ next, (state.sched.account nowNs).pickNext = some next ∧
          sched = (state.sched.account nowNs).setRunning next nowNs) ∨
        ∃ outgoing, state.sched.running = some outgoing ∧
          sched = ((state.sched.account nowNs).setReady outgoing nowNs).setRunning
            outgoing nowNs) := by
  unfold preemptTick accountNow at ended
  simp only [Exec.get_bind_run, Exec.modify_bind_run] at ended
  cases runs : state.sched.running with
  | none =>
      cases picked : (state.sched.account nowNs).pickNext with
      | none =>
          simp only [runs, picked, Exec.pure_run, Outcome.state?_ok,
            Option.some.injEq] at ended
          exact ⟨_, ended.symm, Or.inl rfl⟩
      | some incoming =>
          simp only [runs, picked] at ended
          rw [Exec.bind_of_ok (quietly_run (Scheduler.dispatch_state ..))] at ended
          have same := Option.some.inj ended
          exact ⟨_, same.symm, Or.inr (Or.inl ⟨incoming, rfl, rfl⟩)⟩
  | some outgoing =>
      cases picked : (state.sched.account nowNs).pickNext with
      | none =>
          simp only [runs, picked] at ended
          rw [Exec.bind_of_ok (quietly_run (Scheduler.noteReady_state ..)),
            Exec.bind_of_ok (quietly_run (Scheduler.dispatch_state ..))] at ended
          have same := Option.some.inj ended
          exact ⟨_, same.symm, Or.inr (Or.inr ⟨outgoing, rfl, rfl⟩)⟩
      | some incoming =>
          simp only [runs, picked] at ended
          by_cases other : incoming ≠ outgoing
          · rw [if_pos other, Exec.bind_of_ok
              (quietly_run (Scheduler.dispatch_state ..))] at ended
            have same := Option.some.inj ended
            exact ⟨_, same.symm, Or.inr (Or.inl ⟨incoming, rfl, rfl⟩)⟩
          · rw [if_neg other, Exec.bind_of_ok
              (quietly_run (Scheduler.dispatch_state ..))] at ended
            have same := Option.some.inj ended
            exact ⟨_, same.symm, Or.inr (Or.inl ⟨outgoing, by
              rw [not_not.1 other], rfl⟩)⟩

/-- Starting a thread makes it runnable and ready. -/
theorem admitThread_run (tid : ThreadId) (entry priority nowNs : Nat)
    (state : KernelState) :
    admitThread tid entry priority nowNs state =
      .ok () { state.updateTcb tid fun tcb => { tcb with entry, state := .runnable } with
        sched := (state.sched.setAdmitted tid .interactive priority none).setReady
          tid nowNs } := by
  unfold admitThread
  rw [Exec.modify_bind_run, Exec.bind_of_ok (quietly_run (Scheduler.admit_state ..)),
    quietly_run (Scheduler.noteReady_state ..), sched_updateTcb]

/-- The scheduler after a thread has exited. -/
def schedWithout (tid : ThreadId) (nowNs : Nat) (sched : KScheduler) : KScheduler :=
  (if sched.running = some tid then sched.account nowNs else sched).remove tid

/-- The state after a thread has exited. -/
def exited (tid : ThreadId) (nowNs : Nat) (state : KernelState) : KernelState :=
  { state.updateTcb tid fun tcb => { tcb with state := .exited } with
    sched := schedWithout tid nowNs state.sched }

theorem exitThread_run (tid : ThreadId) (nowNs : Nat) (state : KernelState) :
    exitThread tid nowNs state = .ok () (state.exited tid nowNs) := by
  have stored : ∀ sched : KScheduler,
      { updateTcb tid (fun tcb => { tcb with state := .exited })
          { state with sched } with
        sched := sched.remove tid } =
      { state.updateTcb tid fun tcb => { tcb with state := .exited } with
        sched := sched.remove tid } := by
    intro sched
    unfold updateTcb tcb
    cases state.tcbs.get? tid with
    | none => rfl
    | some tcb => rfl
  unfold exitThread exited schedWithout accountNow
  by_cases runs : state.sched.running = some tid
  · simp only [Exec.get_bind_run, runs, if_true, Exec.modify_bind_run, Exec.modify_run,
      sched_updateTcb, stored]
  · simp only [Exec.get_bind_run, runs, if_false, Exec.modify_bind_run,
      Exec.modify_run, sched_updateTcb]

/-- After a termination another ready thread runs, or none. -/
theorem terminateThread_state
    (ended : (terminateThread tid nowNs state).state? = some final) :
    final = state.exited tid nowNs ∨
      ∃ next, (schedWithout tid nowNs state.sched).pickNext = some next ∧
        final = { state.exited tid nowNs with
          sched := (schedWithout tid nowNs state.sched).setRunning next nowNs } := by
  unfold terminateThread at ended
  rw [Exec.bind_of_ok (exitThread_run ..), Exec.get_bind_run] at ended
  cases picked : (state.exited tid nowNs).sched.pickNext with
  | none =>
      simp only [picked, Exec.pure_run, Outcome.state?_ok, Option.some.injEq] at ended
      exact Or.inl ended.symm
  | some incoming =>
      simp only [picked] at ended
      rw [Exec.bind_of_ok (quietly_run (Scheduler.dispatch_state ..))] at ended
      exact Or.inr ⟨incoming, picked, (Option.some.inj ended).symm⟩

theorem terminateThreadAndHandoff_run (tid incoming : ThreadId) (nowNs : Nat)
    (state : KernelState) :
    terminateThreadAndHandoff tid incoming nowNs state =
      .ok () { state.exited tid nowNs with
        sched := (schedWithout tid nowNs state.sched).setRunning incoming nowNs } := by
  unfold terminateThreadAndHandoff
  rw [Exec.bind_of_ok (exitThread_run ..), quietly_run (Scheduler.dispatch_state ..)]
  rfl

end Spec

end KernelState

end Simurgh
