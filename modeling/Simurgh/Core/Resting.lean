import Simurgh.Core.Blocking
import Simurgh.Core.Exclusive

/-!
# Threads that wait for an event

A thread that the kernel has put to sleep should stay asleep until somebody wakes it.
`Resting` says so of a set of threads, and the operations outside of syscalls keep it.
-/

namespace Simurgh

namespace Scheduler

variable {NT NCG : Nat}

/-! ## Who has an entity -/

theorem isSome_runState_setReady (tid nowNs : Nat) (sched : Scheduler NT NCG)
    (other : ThreadId) :
    ((sched.setReady tid nowNs).runState other).isSome = (sched.runState other).isSome := by
  rw [runState_setReady]
  split
  · rw [Option.isSome_map]
  · rfl

theorem isSome_runState_setBlocked (tid : ThreadId) (sched : Scheduler NT NCG)
    (other : ThreadId) :
    ((sched.setBlocked tid).runState other).isSome = (sched.runState other).isSome := by
  rw [runState_setBlocked]
  split
  · rw [Option.isSome_map]
  · rfl

theorem isSome_runState_setRunning (tid nowNs : Nat) (sched : Scheduler NT NCG)
    (other : ThreadId) :
    ((sched.setRunning tid nowNs).runState other).isSome = (sched.runState other).isSome := by
  rw [runState_setRunning]
  split
  · rw [Option.isSome_map]
  · rfl

theorem isSome_runState_account (nowNs : Nat) (sched : Scheduler NT NCG) (other : ThreadId) :
    ((sched.account nowNs).runState other).isSome = (sched.runState other).isSome := by
  rcases runState_account nowNs sched other with same | ⟨before, after⟩
  · rw [same]
  · rw [before, after]
    rfl

end Scheduler

/-- The threads in `waits` sleep, and the scheduler knows only threads with records. -/
structure Resting (waits : ThreadId → Prop) (state : KernelState) : Prop where
  asleep : Asleep waits state.sched
  waiters : ∀ tid, waits tid → (state.tcb tid).isSome
  admitted : ∀ tid, (state.sched.runState tid).isSome → (state.tcb tid).isSome

namespace Resting

variable {waits later : ThreadId → Prop} {state : KernelState}

/-- Fewer threads wait. -/
theorem of_waits (resting : Resting waits state) (same : ∀ tid, later tid → waits tid) :
    Resting later state where
  asleep := resting.asleep.of_waits same
  waiters := fun tid waiting => resting.waiters tid (same tid waiting)
  admitted := resting.admitted

/-- The running thread has a record and does not wait. -/
theorem running (resting : Resting waits state) {tid : ThreadId}
    (runs : state.sched.running = some tid) : ¬ waits tid ∧ (state.tcb tid).isSome := by
  have schedulable := resting.asleep.running tid runs
  refine ⟨resting.asleep.awake schedulable, resting.admitted tid ?_⟩
  rcases schedulable with ready | running
  · rw [ready]
    rfl
  · rw [running]
    rfl

/-- The scheduler has been changed, for threads that have records. -/
theorem withSched (resting : Resting waits state) {sched : KScheduler}
    (asleep : Asleep later sched) (same : ∀ tid, later tid → (state.tcb tid).isSome)
    (admitted : ∀ tid, (sched.runState tid).isSome → (state.sched.runState tid).isSome) :
    Resting later { state with sched } where
  asleep := asleep
  waiters := same
  admitted := fun tid present => resting.admitted tid (admitted tid present)

/-- Records have been changed, and none is gone. -/
theorem of_tcb {after : KernelState} (resting : Resting waits state)
    (same : after.sched = state.sched)
    (kept : ∀ tid, (state.tcb tid).isSome → (after.tcb tid).isSome) : Resting waits after where
  asleep := same ▸ resting.asleep
  waiters := fun tid waiting => kept tid (resting.waiters tid waiting)
  admitted := by
    intro tid present
    rw [same] at present
    exact kept tid (resting.admitted tid present)

/-- Nobody waits after the start. -/
theorem of_boots {μ : Type} {machine : Machine μ} (boots : machine.Boots) :
    Resting (fun _ => False) machine.kernel := by
  obtain ⟨kernel, fromBoot, same⟩ := boots
  have booted := fromBoot.booted
  have resting : Resting (fun _ => False) kernel := {
    asleep := {
      waiting := fun _ absurdity => absurdity.elim
      running := by simp [booted.idle]
      threadsMatch := booted.threadsMatch }
    waiters := fun _ absurdity => absurdity.elim
    admitted := by
      intro tid present
      rw [Scheduler.runState, Option.isSome_map] at present
      exact booted.admitted tid present }
  rcases same with rfl | ⟨base, len, installed⟩
  · exact resting
  · rw [installed]
    exact resting.of_tcb rfl fun _ there => there

theorem updateTcb (resting : Resting waits state) (tid : ThreadId) (update : Tcb → Tcb) :
    Resting waits (state.updateTcb tid update) := by
  refine resting.of_tcb (KernelState.sched_updateTcb ..) fun other there => ?_
  rw [KernelState.tcb_updateTcb]
  split
  · rw [Option.isSome_map]
    exact there
  · exact there

theorem spawns {after : KernelState} (resting : Resting waits state)
    (spawned : KernelState.Spawns state after) : Resting waits after := by
  refine resting.of_tcb (by rw [spawned.frame]) fun tid there => ?_
  obtain ⟨tcb, present⟩ := Option.isSome_iff_exists.1 there
  have stays := spawned.tcbs.get?_of_some present
  exact Option.isSome_iff_exists.2 ⟨tcb, stays⟩

/-- A new thread is started. -/
theorem started (resting : Resting waits state) {tid : ThreadId} (fresh : ¬ waits tid)
    (recorded : (state.tcb tid).isSome) (entry priority nowNs : Nat) :
    Resting waits
      { state.updateTcb tid fun tcb => { tcb with entry, state := .runnable } with
        sched := (state.sched.setAdmitted tid .interactive priority none).setReady
          tid nowNs } := by
  obtain ⟨tcb, present⟩ := Option.isSome_iff_exists.1 recorded
  have inside : tid < maxThreads := Slab.lt_of_get? present
  have marked := resting.updateTcb tid fun tcb => { tcb with entry, state := .runnable }
  constructor
  · exact resting.asleep.setAdmitted inside priority nowNs fun other waiting =>
      ⟨waiting, fun same => fresh (same ▸ waiting)⟩
  · exact marked.waiters
  · intro other there
    rw [Scheduler.runState_setReady, Scheduler.runState_setAdmitted inside] at there
    by_cases same : other = tid
    · change ((state.updateTcb tid _).tcb other).isSome
      rw [KernelState.tcb_updateTcb, if_pos same, Option.isSome_map, same]
      exact recorded
    · rw [if_neg same, if_neg same] at there
      refine marked.admitted other ?_
      rw [KernelState.sched_updateTcb]
      exact there

/-- A thread is put away. -/
theorem retired (resting : Resting waits state) (tid : ThreadId) (update : Tcb → Tcb) :
    Resting waits { state.updateTcb tid update with sched := state.sched.remove tid } := by
  have marked := resting.updateTcb tid update
  constructor
  · exact resting.asleep.remove tid
  · exact marked.waiters
  · intro other there
    refine marked.admitted other ?_
    rw [KernelState.sched_updateTcb]
    rw [Scheduler.runState_remove] at there
    split at there
    · cases there
    · exact there

/-! ## Rescheduling -/

theorem setBlocked (resting : Resting waits state) (tid : ThreadId) :
    Resting waits { state with sched := state.sched.setBlocked tid } := by
  refine resting.withSched (resting.asleep.setBlocked tid fun _ _ waiting => waiting)
    resting.waiters fun other there => ?_
  rwa [Scheduler.isSome_runState_setBlocked] at there

theorem setRunning (resting : Resting waits state) {tid : ThreadId} (awake : ¬ waits tid)
    (nowNs : Nat) : Resting waits { state with sched := state.sched.setRunning tid nowNs } := by
  refine resting.withSched (resting.asleep.setRunning tid nowNs awake) resting.waiters
    fun other there => ?_
  rwa [Scheduler.isSome_runState_setRunning] at there

theorem account (resting : Resting waits state) (nowNs : Nat) :
    Resting waits { state with sched := state.sched.account nowNs } := by
  refine resting.withSched (resting.asleep.account nowNs) resting.waiters fun other there => ?_
  rwa [Scheduler.isSome_runState_account] at there

theorem setReady (resting : Resting waits state) (tid nowNs : Nat) :
    Resting (fun other => waits other ∧ other ≠ tid)
      { state with sched := state.sched.setReady tid nowNs } := by
  refine resting.withSched (resting.asleep.setReady tid nowNs fun _ waiting => waiting)
    (fun other waiting => resting.waiters other waiting.1) fun other there => ?_
  rwa [Scheduler.isSome_runState_setReady] at there

/-- Nobody who waits is picked by a tick. -/
theorem ticked (resting : Resting waits state) (nowNs : Nat) :
    Resting waits { state with sched := state.sched.ticked nowNs } := by
  have charged := resting.account nowNs
  unfold Scheduler.ticked
  cases picked : (state.sched.account nowNs).pickNext with
  | some next =>
      exact charged.setRunning (charged.asleep.pickNext_awake picked) nowNs
  | none =>
      cases runs : state.sched.running with
      | none => exact charged
      | some outgoing =>
          have awake := (resting.running runs).1
          have ready : Resting waits
              { state with sched := (state.sched.account nowNs).setReady outgoing nowNs } :=
            (charged.setReady outgoing nowNs).of_waits fun other waiting =>
              ⟨waiting, fun same => awake (same ▸ waiting)⟩
          exact ready.setRunning awake nowNs

/-- While the running thread is not alone, another one is picked when it blocks. -/
theorem exists_pick (resting : Resting waits state) {tid : ThreadId}
    (runs : state.sched.running = some tid) (accompanied : ¬ state.sched.AloneReady tid)
    (nowNs : Nat) :
    ∃ next, ((state.sched.account nowNs).setBlocked tid).pickNext = some next ∧ next ≠ tid := by
  have charged := (resting.account nowNs).asleep.threadsMatch
  have picks : ((state.sched.account nowNs).setBlocked tid).pickNext ≠ none := by
    rw [ne_eq, Scheduler.pickNext_setBlocked_eq_none_iff]
    intro alone
    refine accompanied fun other ne ready => alone other ne ?_
    rcases Scheduler.entity_account nowNs state.sched other with same | ⟨here, _⟩
    · rw [Scheduler.runState, same]
      exact ready
    · rw [runs, Option.some.injEq] at here
      exact absurd here.symm ne
  obtain ⟨next, picked⟩ := Option.ne_none_iff_exists'.1 picks
  refine ⟨next, picked, fun same => ?_⟩
  have ready := Scheduler.runState_of_pickNext (charged.setBlocked tid) picked
  rw [Scheduler.runState_setBlocked, if_pos same] at ready
  obtain ⟨_, _, absurdity⟩ := Option.map_eq_some_iff.1 ready
  cases absurdity

/-- The thread that is picked has a record. -/
theorem recorded_of_pick (resting : Resting waits state) {tid next : ThreadId} {nowNs : Nat}
    (picked : ((state.sched.account nowNs).setBlocked tid).pickNext = some next) :
    (state.tcb next).isSome := by
  have threadsMatch := (resting.account nowNs).asleep.threadsMatch.setBlocked tid
  have ready := Scheduler.runState_of_pickNext threadsMatch picked
  refine resting.admitted next ?_
  rw [← Scheduler.isSome_runState_account nowNs, ← Scheduler.isSome_runState_setBlocked tid, ready]
  rfl

/-- A thread goes to sleep while another one is picked. -/
theorem blocked (resting : Resting waits state) {tid next : ThreadId} {nowNs : Nat}
    (recorded : (state.tcb tid).isSome)
    (picked : ((state.sched.account nowNs).setBlocked tid).pickNext = some next) :
    ¬ (waits next ∨ next = tid) ∧
      Resting (fun other => waits other ∨ other = tid)
        { state with
          sched := ((state.sched.account nowNs).setBlocked tid).setRunning next nowNs } := by
  have charged := resting.account nowNs
  have asleep : Asleep (fun other => waits other ∨ other = tid)
      ((state.sched.account nowNs).setBlocked tid) :=
    charged.asleep.setBlocked tid fun other ne waiting => waiting.resolve_right ne
  have sleeping : Resting (fun other => waits other ∨ other = tid)
      { state with sched := (state.sched.account nowNs).setBlocked tid } := by
    refine charged.withSched asleep (fun other waiting => ?_) fun other there => ?_
    · rcases waiting with waits | rfl
      · exact resting.waiters other waits
      · exact recorded
    · rwa [Scheduler.isSome_runState_setBlocked] at there
  have awake := asleep.pickNext_awake picked
  exact ⟨awake, sleeping.setRunning awake nowNs⟩

/-- A thread hands over to one that does not wait. -/
theorem yieldedTo (resting : Resting waits state) (source : ThreadId) {target : ThreadId}
    (awake : ¬ waits target) (nowNs : Nat) :
    Resting waits
      { state with
        sched := ((state.sched.account nowNs).setBlocked source).setRunning target nowNs } :=
  ((resting.account nowNs).setBlocked source).setRunning awake nowNs

/-- A thread is killed. -/
theorem exited (resting : Resting waits state) (tid : ThreadId) (nowNs : Nat) :
    Resting waits (state.exited tid nowNs) := by
  have marked := resting.updateTcb tid fun tcb => { tcb with state := .exited }
  have charged : Asleep waits (KernelState.schedWithout tid nowNs state.sched) ∧
      ∀ other, ((KernelState.schedWithout tid nowNs state.sched).runState other).isSome →
        (state.sched.runState other).isSome := by
    unfold KernelState.schedWithout
    split
    · refine ⟨(resting.asleep.account nowNs).remove tid, fun other there => ?_⟩
      rw [Scheduler.runState_remove] at there
      split at there
      · cases there
      · rwa [Scheduler.isSome_runState_account] at there
    · refine ⟨resting.asleep.remove tid, fun other there => ?_⟩
      rw [Scheduler.runState_remove] at there
      split at there
      · cases there
      · exact there
  refine marked.withSched charged.1 marked.waiters fun other there => ?_
  rw [KernelState.sched_updateTcb]
  exact charged.2 other there

end Resting

end Simurgh
