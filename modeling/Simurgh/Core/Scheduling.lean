import Simurgh.Core.Demand

/-!
# Who runs next

The operations of the kernel that move the processor from one thread to another: ticks,
yields, blocking and waking, terminations, starts, and syscalls with the switch to the
thread that they name.  `resched` says exactly what each does to the scheduler.
-/

namespace Simurgh

namespace Scheduler

variable {NT NCG : Nat}

/-- Switch to a thread, if there is one. -/
def runNext (next : Option ThreadId) (nowNs : Nat) (sched : Scheduler NT NCG) :
    Scheduler NT NCG :=
  match next with
  | none => sched
  | some next => sched.setRunning next nowNs

/-- Run a thread that has just been charged or blocked. -/
def runAgain (tid : ThreadId) (nowNs : Nat) (sched : Scheduler NT NCG) :
    Scheduler NT NCG :=
  (sched.setReady tid nowNs).setRunning tid nowNs

/-- The scheduler after a tick. -/
def ticked (nowNs : Nat) (sched : Scheduler NT NCG) : Scheduler NT NCG :=
  match (sched.account nowNs).pickNext, sched.running with
  | some next, _ => (sched.account nowNs).setRunning next nowNs
  | none, some outgoing => (sched.account nowNs).runAgain outgoing nowNs
  | none, none => sched.account nowNs

/-- The scheduler after a thread has blocked, if another one is ready. -/
def blockedOr (tid : ThreadId) (nowNs : Nat) (sched : Scheduler NT NCG) :
    Scheduler NT NCG :=
  match ((sched.account nowNs).setBlocked tid).pickNext with
  | some next =>
      if next ≠ tid then ((sched.account nowNs).setBlocked tid).setRunning next nowNs
      else ((sched.account nowNs).setBlocked tid).runAgain tid nowNs
  | none => ((sched.account nowNs).setBlocked tid).runAgain tid nowNs

/-- The scheduler after a yield.  The thread that yields is not picked. -/
def yielded (nowNs : Nat) (sched : Scheduler NT NCG) : Scheduler NT NCG :=
  match sched.running with
  | none => (sched.account nowNs).runNext (sched.account nowNs).pickNext nowNs
  | some outgoing =>
      (((sched.account nowNs).setBlocked outgoing).setReady outgoing nowNs).setRunning
        ((((sched.account nowNs).setBlocked outgoing).pickNext).getD outgoing) nowNs

end Scheduler

namespace KernelState

/-! ## The operations outside of syscalls -/

section Spec

variable {state : KernelState} {nowNs : Nat}

/-- What a tick or a yield resolves to. -/
def stepTo (outgoing next : Option ThreadId) : PreemptStep :=
  match outgoing, next with
  | some outgoing, some incoming =>
      if incoming ≠ outgoing then .switch outgoing incoming else .continue
  | some _, none => .continue
  | none, some _ => .continue
  | none, none => .idle

theorem preemptTick_run (nowNs : Nat) (state : KernelState) :
    preemptTick nowNs state =
      .ok (stepTo state.sched.running (state.sched.account nowNs).pickNext)
        { state with sched := state.sched.ticked nowNs } := by
  unfold preemptTick accountNow Scheduler.ticked
  simp only [Exec.get_bind_run, Exec.modify_bind_run]
  cases runs : state.sched.running with
  | none =>
      cases picked : (state.sched.account nowNs).pickNext with
      | none => rfl
      | some incoming =>
          simp only [stepTo]
          rw [Exec.bind_of_ok (quietly_run (Scheduler.dispatch_state ..))]
          rfl
  | some outgoing =>
      cases picked : (state.sched.account nowNs).pickNext with
      | none =>
          simp only [stepTo]
          rw [Exec.bind_of_ok (quietly_run (Scheduler.noteReady_state ..)),
            Exec.bind_of_ok (quietly_run (Scheduler.dispatch_state ..))]
          rfl
      | some incoming =>
          simp only [stepTo]
          by_cases other : incoming ≠ outgoing
          · rw [if_pos other, if_pos other,
              Exec.bind_of_ok (quietly_run (Scheduler.dispatch_state ..))]
            rfl
          · obtain rfl := not_not.1 other
            rw [if_neg other, if_neg other,
              Exec.bind_of_ok (quietly_run (Scheduler.dispatch_state ..))]
            rfl

theorem cooperativeYield_run (nowNs : Nat) (state : KernelState) :
    ∃ step, cooperativeYield nowNs state =
      .ok step { state with sched := state.sched.yielded nowNs } ∧
      ∀ outgoing incoming, step = .switch outgoing incoming →
        state.sched.running = some outgoing ∧
          ((state.sched.account nowNs).setBlocked outgoing).pickNext = some incoming := by
  unfold cooperativeYield accountNow Scheduler.yielded
  simp only [Exec.get_bind_run, Exec.modify_bind_run]
  cases runs : state.sched.running with
  | none =>
      cases picked : (state.sched.account nowNs).pickNext with
      | none =>
          refine ⟨.idle, ?_, by simp⟩
          simp only [Exec.get_bind_run, picked]
          rfl
      | some incoming =>
          refine ⟨.continue, ?_, by simp⟩
          simp only [Exec.get_bind_run, picked]
          rw [Exec.bind_of_ok (quietly_run (Scheduler.dispatch_state ..))]
          rfl
  | some outgoing =>
      simp only
      rw [Exec.bind_of_ok (quietly_run (Scheduler.noteBlocked_state ..)), Exec.get_bind_run,
        Exec.bind_of_ok (quietly_run (Scheduler.noteReady_state ..))]
      cases picked : ((state.sched.account nowNs).setBlocked outgoing).pickNext with
      | none =>
          refine ⟨.continue, ?_, by simp⟩
          simp only
          rw [Exec.bind_of_ok (quietly_run (Scheduler.dispatch_state ..))]
          rfl
      | some incoming =>
          simp only
          by_cases other : incoming ≠ outgoing
          · refine ⟨.switch outgoing incoming, ?_, ?_⟩
            · rw [if_pos other, Exec.bind_of_ok (quietly_run (Scheduler.dispatch_state ..))]
              rfl
            · intro first second same
              obtain ⟨rfl, rfl⟩ := PreemptStep.switch.inj same
              exact ⟨rfl, picked⟩
          · obtain rfl := not_not.1 other
            refine ⟨.continue, ?_, by simp⟩
            rw [if_neg other, Exec.bind_of_ok (quietly_run (Scheduler.dispatch_state ..))]
            rfl

theorem blockThread_run (tid : ThreadId) (nowNs : Nat) (state : KernelState) :
    ∃ step, blockThread tid nowNs state =
      .ok step { state with sched := state.sched.blockedOr tid nowNs } ∧
      ∀ outgoing incoming, step = .switch outgoing incoming →
        outgoing = tid ∧
          ((state.sched.account nowNs).setBlocked tid).pickNext = some incoming := by
  unfold blockThread accountNow Scheduler.blockedOr
  rw [Exec.modify_bind_run, Exec.bind_of_ok (quietly_run (Scheduler.noteBlocked_state ..)),
    Exec.get_bind_run]
  cases picked : ((state.sched.account nowNs).setBlocked tid).pickNext with
  | none =>
      refine ⟨.continue, ?_, by simp⟩
      simp only
      rw [Exec.bind_of_ok (quietly_run (Scheduler.noteReady_state ..)),
        Exec.bind_of_ok (quietly_run (Scheduler.dispatch_state ..))]
      rfl
  | some incoming =>
      simp only
      by_cases other : incoming ≠ tid
      · refine ⟨.switch tid incoming, ?_, ?_⟩
        · rw [if_pos other, if_pos other,
            Exec.bind_of_ok (quietly_run (Scheduler.dispatch_state ..))]
          rfl
        · intro first second same
          obtain ⟨rfl, rfl⟩ := PreemptStep.switch.inj same
          exact ⟨rfl, rfl⟩
      · refine ⟨.continue, ?_, by simp⟩
        rw [if_neg other, if_neg other,
          Exec.bind_of_ok (quietly_run (Scheduler.noteReady_state ..)),
          Exec.bind_of_ok (quietly_run (Scheduler.dispatch_state ..))]
        rfl

/-- A thread that blocks while another one is picked hands over to it. -/
theorem blockThread_of_pick {tid next : ThreadId}
    (picked : ((state.sched.account nowNs).setBlocked tid).pickNext = some next)
    (other : next ≠ tid) :
    blockThread tid nowNs state =
      .ok (.switch tid next)
        { state with
          sched := ((state.sched.account nowNs).setBlocked tid).setRunning next nowNs } := by
  unfold blockThread accountNow
  rw [Exec.modify_bind_run, Exec.bind_of_ok (quietly_run (Scheduler.noteBlocked_state ..)),
    Exec.get_bind_run]
  simp only [picked, if_pos other]
  rw [Exec.bind_of_ok (quietly_run (Scheduler.dispatch_state ..))]
  rfl

theorem yieldToThread_run (source target : ThreadId) (nowNs : Nat) (state : KernelState) :
    yieldToThread source target nowNs state =
      .ok (.switch source target)
        { state with
          sched := ((state.sched.account nowNs).setBlocked source).setRunning target nowNs } := by
  unfold yieldToThread accountNow
  rw [Exec.modify_bind_run, Exec.bind_of_ok (quietly_run (Scheduler.noteBlocked_state ..)),
    Exec.bind_of_ok (quietly_run (Scheduler.dispatch_state ..))]
  rfl

theorem wakeBlocked_run (tid : ThreadId) (nowNs : Nat) (state : KernelState) :
    wakeBlocked tid nowNs state =
      .ok () { state with sched := state.sched.setReady tid nowNs } :=
  quietly_run (Scheduler.noteReady_state ..)

theorem terminateThread_run (tid : ThreadId) (nowNs : Nat) (state : KernelState) :
    terminateThread tid nowNs state =
      .ok
        (match (schedWithout tid nowNs state.sched).pickNext with
          | some incoming => .switched incoming
          | none => .idle)
        { state.exited tid nowNs with
          sched := (schedWithout tid nowNs state.sched).runNext
            (schedWithout tid nowNs state.sched).pickNext nowNs } := by
  unfold terminateThread
  rw [Exec.bind_of_ok (exitThread_run ..), Exec.get_bind_run]
  have same : (state.exited tid nowNs).sched = schedWithout tid nowNs state.sched := rfl
  rw [same]
  cases picked : (schedWithout tid nowNs state.sched).pickNext with
  | none => rfl
  | some incoming =>
      simp only
      rw [Exec.bind_of_ok (quietly_run (Scheduler.dispatch_state ..))]
      rfl

end Spec

end KernelState

/-! ## All operations -/

inductive SchedulingOp where
  | preemptTick (nowNs : Nat)
  | cooperativeYield (nowNs : Nat)
  | blockThread (tid : ThreadId) (nowNs : Nat)
  | wakeBlocked (tid : ThreadId) (nowNs : Nat)
  | terminateThread (tid : ThreadId) (nowNs : Nat)
  | terminateThreadAndHandoff (tid incoming : ThreadId) (nowNs : Nat)
  | yieldToThread (source target : ThreadId) (nowNs : Nat)
  | initUserThread (tid : ThreadId) (entry nowNs : Nat)
  /-- The switch to the thread that the syscall names comes at `laterNs`. -/
  | syscall (caller : ThreadId) (op : SyscallOp) (nowNs laterNs : Nat)
  deriving DecidableEq, Repr

namespace SchedulingOp

variable {μ : Type} (hal : HalInterface μ)

def exec : SchedulingOp → Exec (Machine μ) SyscallError Unit
  | preemptTick nowNs => Machine.onKernel do
      let _ ← KernelState.preemptTick nowNs
  | cooperativeYield nowNs => Machine.onKernel do
      let _ ← KernelState.cooperativeYield nowNs
  | blockThread tid nowNs => Machine.onKernel do
      let _ ← KernelState.blockThread tid nowNs
  | wakeBlocked tid nowNs => Machine.onKernel (KernelState.wakeBlocked tid nowNs)
  | terminateThread tid nowNs => Machine.onKernel do
      let _ ← KernelState.terminateThread tid nowNs
  | terminateThreadAndHandoff tid incoming nowNs =>
      Machine.onKernel (KernelState.terminateThreadAndHandoff tid incoming nowNs)
  | yieldToThread source target nowNs => Machine.onKernel do
      let _ ← KernelState.yieldToThread source target nowNs
  | initUserThread tid entry nowNs =>
      Machine.onKernel (KernelState.initUserThread tid entry nowNs)
  | syscall caller op nowNs laterNs => do
      let result ← Machine.dispatch hal caller nowNs op
      Machine.onKernel (Machine.commit result.next laterNs)

/-- The scheduler after the operation. -/
def resched (before : KernelState) : SchedulingOp → KScheduler
  | preemptTick nowNs => before.sched.ticked nowNs
  | cooperativeYield nowNs => before.sched.yielded nowNs
  | blockThread tid nowNs => before.sched.blockedOr tid nowNs
  | wakeBlocked tid nowNs => before.sched.setReady tid nowNs
  | terminateThread tid nowNs =>
      (KernelState.schedWithout tid nowNs before.sched).runNext
        (KernelState.schedWithout tid nowNs before.sched).pickNext nowNs
  | terminateThreadAndHandoff tid incoming nowNs =>
      (KernelState.schedWithout tid nowNs before.sched).setRunning incoming nowNs
  | yieldToThread source target nowNs =>
      ((before.sched.account nowNs).setBlocked source).setRunning target nowNs
  | initUserThread tid _ nowNs =>
      (before.sched.setAdmitted tid .interactive maxPriority none).setReady tid nowNs
  | syscall caller op nowNs laterNs =>
      ((before.demands caller op).sched caller nowNs before.sched).runNext
        ((before.demands caller op).next caller nowNs before.sched) laterNs

/-- A property that the parts of the operations keep. -/
structure Kept (holds : KScheduler → Prop) : Prop where
  account : ∀ {sched}, holds sched → ∀ nowNs, holds (sched.account nowNs)
  setReady : ∀ {sched}, holds sched → ∀ tid nowNs, holds (sched.setReady tid nowNs)
  setBlocked : ∀ {sched}, holds sched → ∀ tid, holds (sched.setBlocked tid)
  setRunning : ∀ {sched}, holds sched → ∀ tid nowNs, holds (sched.setRunning tid nowNs)
  remove : ∀ {sched}, holds sched → ∀ tid, holds (sched.remove tid)
  setAdmitted : ∀ {sched}, holds sched → ∀ tid,
    holds (sched.setAdmitted tid .interactive maxPriority none)

namespace Kept

variable {holds : KScheduler → Prop} (kept : Kept holds) {sched : KScheduler}
include kept

theorem setAllReady (now : holds sched) (nowNs : Nat) (threads : List ThreadId) :
    holds (sched.setAllReady nowNs threads) := by
  induction threads generalizing sched with
  | nil => exact now
  | cons tid rest ih =>
      exact ih (kept.setReady now tid nowNs)

theorem runNext (now : holds sched) (next : Option ThreadId) (nowNs : Nat) :
    holds (sched.runNext next nowNs) := by
  cases next with
  | none => exact now
  | some next => exact kept.setRunning now next nowNs

theorem runAgain (now : holds sched) (tid : ThreadId) (nowNs : Nat) :
    holds (sched.runAgain tid nowNs) :=
  kept.setRunning (kept.setReady now tid nowNs) tid nowNs

theorem schedWithout (now : holds sched) (tid : ThreadId) (nowNs : Nat) :
    holds (KernelState.schedWithout tid nowNs sched) := by
  unfold KernelState.schedWithout
  split
  · exact kept.remove (kept.account now nowNs) tid
  · exact kept.remove now tid

/-- The operations keep what their parts keep. -/
theorem resched {before : KernelState} (now : holds before.sched) (op : SchedulingOp) :
    holds (op.resched before) := by
  cases op with
  | preemptTick nowNs =>
      change holds (before.sched.ticked nowNs)
      have charged := kept.account now nowNs
      unfold Scheduler.ticked
      split
      · exact kept.setRunning charged _ nowNs
      · exact kept.runAgain charged _ nowNs
      · exact charged
  | cooperativeYield nowNs =>
      change holds (before.sched.yielded nowNs)
      have charged := kept.account now nowNs
      unfold Scheduler.yielded
      split
      · exact kept.runNext charged _ nowNs
      · exact kept.setRunning (kept.setReady (kept.setBlocked charged _) _ nowNs) _ nowNs
  | blockThread tid nowNs =>
      change holds (before.sched.blockedOr tid nowNs)
      have blocked := kept.setBlocked (kept.account now nowNs) tid
      unfold Scheduler.blockedOr
      split
      · split
        · exact kept.setRunning blocked _ nowNs
        · exact kept.runAgain blocked tid nowNs
      · exact kept.runAgain blocked tid nowNs
  | wakeBlocked tid nowNs => exact kept.setReady now tid nowNs
  | terminateThread tid nowNs =>
      exact kept.runNext (kept.schedWithout now tid nowNs) _ nowNs
  | terminateThreadAndHandoff tid incoming nowNs =>
      exact kept.setRunning (kept.schedWithout now tid nowNs) incoming nowNs
  | yieldToThread source target nowNs =>
      exact kept.setRunning (kept.setBlocked (kept.account now nowNs) source) target nowNs
  | initUserThread tid entry nowNs =>
      exact kept.setReady (kept.setAdmitted now tid) tid nowNs
  | syscall caller op nowNs laterNs =>
      refine kept.runNext ?_ _ laterNs
      cases before.demands caller op with
      | nothing => exact now
      | wake threads => exact kept.setAllReady now nowNs threads
      | charge => exact kept.account now nowNs
      | sleep => exact kept.setBlocked (kept.account now nowNs) caller
      | park => exact kept.setBlocked now caller
      | handOver target => exact kept.setBlocked (kept.setReady now target nowNs) caller
      | answer target => exact kept.setReady (kept.setReady now target nowNs) caller nowNs

end Kept

/-- There is no entity beyond the last thread. -/
theorem setAdmitted_outside {sched : KScheduler} {tid : ThreadId} (outside : maxThreads ≤ tid)
    (mode : SchedulerMode) (priority : Nat) (group : Option ChainGroupId) :
    sched.setAdmitted tid mode priority group = sched := by
  unfold Scheduler.setAdmitted Slab.put
  rw [Vector.setIfInBounds_eq_of_size_le outside]

theorem threadsMatch_setAdmitted {sched : KScheduler} (threadsMatch : sched.ThreadsMatch)
    (tid : ThreadId) (mode : SchedulerMode) (priority : Nat) (group : Option ChainGroupId) :
    (sched.setAdmitted tid mode priority group).ThreadsMatch := by
  by_cases inside : tid < maxThreads
  · exact threadsMatch.setAdmitted inside _ _ _
  · rw [setAdmitted_outside (Nat.le_of_not_lt inside)]
    exact threadsMatch

/-- Operations keep every entity under its own thread. -/
theorem kept_threadsMatch : Kept fun sched => sched.ThreadsMatch where
  account := Scheduler.ThreadsMatch.account
  setReady := Scheduler.ThreadsMatch.setReady
  setBlocked := Scheduler.ThreadsMatch.setBlocked
  setRunning := Scheduler.ThreadsMatch.setRunning
  remove := Scheduler.ThreadsMatch.remove
  setAdmitted := fun threadsMatch tid => threadsMatch_setAdmitted threadsMatch tid _ _ _

/-- Machines under the operations. -/
def system : TransitionSystem (Machine μ) SchedulingOp where
  Initial := Machine.Boots
  Step before op after := (op.exec hal before).state? = some after

theorem sched_committed (next : Option ThreadId) (nowNs : Nat) (kernel : KernelState) :
    (Machine.committed next nowNs kernel).sched = kernel.sched.runNext next nowNs := by
  cases next with
  | none => rfl
  | some next => rfl

/-- A step reschedules as it should. -/
theorem sched_of_step {op : SchedulingOp} {before after : Machine μ}
    (taken : (system hal).Step before op after) :
    after.kernel.sched = op.resched before.kernel := by
  change (op.exec hal before).state? = some after at taken
  cases op with
  | preemptTick nowNs =>
      have ended := Machine.discard_state (Machine.onKernel_state taken).1
      rw [KernelState.preemptTick_run] at ended
      rw [← Option.some.inj ended]
      rfl
  | cooperativeYield nowNs =>
      obtain ⟨step, ran, _⟩ := KernelState.cooperativeYield_run nowNs before.kernel
      have ended := Machine.discard_state (Machine.onKernel_state taken).1
      rw [ran] at ended
      rw [← Option.some.inj ended]
      rfl
  | blockThread tid nowNs =>
      obtain ⟨step, ran, _⟩ := KernelState.blockThread_run tid nowNs before.kernel
      have ended := Machine.discard_state (Machine.onKernel_state taken).1
      rw [ran] at ended
      rw [← Option.some.inj ended]
      rfl
  | wakeBlocked tid nowNs =>
      have ended := (Machine.onKernel_state taken).1
      rw [KernelState.wakeBlocked_run] at ended
      rw [← Option.some.inj ended]
      rfl
  | terminateThread tid nowNs =>
      have ended := Machine.discard_state (Machine.onKernel_state taken).1
      rw [KernelState.terminateThread_run] at ended
      rw [← Option.some.inj ended]
      rfl
  | terminateThreadAndHandoff tid incoming nowNs =>
      have ended := (Machine.onKernel_state taken).1
      rw [KernelState.terminateThreadAndHandoff_run] at ended
      rw [← Option.some.inj ended]
      rfl
  | yieldToThread source target nowNs =>
      have ended := Machine.discard_state (Machine.onKernel_state taken).1
      rw [KernelState.yieldToThread_run] at ended
      rw [← Option.some.inj ended]
      rfl
  | initUserThread tid entry nowNs =>
      have ended := (Machine.onKernel_state taken).1
      rw [KernelState.initUserThread, KernelState.admitThread_run] at ended
      rw [← Option.some.inj ended]
      rfl
  | syscall caller op nowNs laterNs =>
      have meets : EndsIn
          (fun next (final : Machine μ) =>
            KernelState.Meets caller nowNs before.kernel (before.kernel.demands caller op)
              next final.kernel)
          (Machine.dispatch hal caller nowNs op before) := Machine.dispatch_meets hal op before
      rcases Exec.bind_state.1 taken with ⟨error, failed⟩ | ⟨result, middle, ran, rest⟩
      · rw [failed] at meets
        change _ = Scheduler.runNext _ _ _
        rw [meets.1, ← meets.2]
        rfl
      · rw [ran] at meets
        have ended := (Machine.onKernel_state rest).1
        rw [Machine.commit_run] at ended
        rw [← Option.some.inj ended, sched_committed, meets.1, meets.2]
        rfl

end SchedulingOp

end Simurgh
