import Simurgh.Core.Scheduling
import Simurgh.Sched.Picking

/-!
# The scheduling step

`schedule_step` charges the running thread, picks the next one and switches the processor to
it.  The kernel keeps no record of the processor: which thread's context it executes is a
value beside the kernel state, and it changes only with a call of `context_switch`.
-/

namespace Simurgh

/-- What one `schedule_step` did. -/
inductive ScheduleOutcome where
  | switched (next : ThreadId)
  | notStartable (thread : ThreadId)
  | idle
  deriving DecidableEq, Repr

/-- A call of `context_switch`.  The registers are saved in the record of a thread, or in a
buffer that is thrown away. -/
structure ContextSwitch where
  saved : Option ThreadId
  loaded : ThreadId
  deriving DecidableEq, Repr

/-- The thread whose context the processor executes, if any, after what was called. -/
def executesAfter (executing : Option ThreadId) : Option ContextSwitch → Option ThreadId
  | none => executing
  | some switch => some switch.loaded

namespace KernelState

/-- The startable check of `schedule_step`. -/
def isStartable (state : KernelState) (tid : ThreadId) : Bool :=
  ((state.tcb tid).map fun t => decide (t.state = .runnable) && t.entry != 0).getD false

/-- The end of `schedule_step`, for a thread that was dispatched. -/
def switchTo (outgoing : Option ThreadId) (next : ThreadId) :
    Exec KernelState SyscallError (ScheduleOutcome × Option ContextSwitch) := do
  let state ← Exec.get
  let _ ← Exec.expect (state.tcb next)
  match outgoing with
  | some prev => do
      if prev ≠ next then
        let _ ← Exec.expect (state.tcb prev)
        return (.switched next, some ⟨some prev, next⟩)
      else
        -- The same thread was picked again.
        return (.switched next, none)
  | none => return (.switched next, some ⟨none, next⟩)

/-- One scheduling step, and the switch that it calls for. -/
def scheduleStep (nowNs : Nat) :
    Exec KernelState SyscallError (ScheduleOutcome × Option ContextSwitch) := do
  let before ← Exec.get
  accountNow nowNs
  let state ← Exec.get
  match state.sched.pickNext with
  | none => return (.idle, none)
  | some next => do
      if !state.isStartable next then
        return (.notStartable next, none)
      quietly (Scheduler.dispatch next nowNs)
      switchTo before.sched.running next

/-- Hand the processor from one thread to another. -/
def yieldTo (source target : ThreadId) (nowNs : Nat) :
    Exec KernelState SyscallError (Option ContextSwitch) := do
  if source = target then
    return none
  let state ← Exec.get
  if state.sched.runState source = some .running then
    quietly (Scheduler.noteReady source nowNs)
  quietly (Scheduler.dispatch target nowNs)
  let state ← Exec.get
  let _ ← Exec.expect (state.tcb target)
  let _ ← Exec.expect (state.tcb source)
  return some ⟨some source, target⟩

/-! ## What a step has to do -/

/-- The thread can be started: it is runnable and has an entry point. -/
def Startable (state : KernelState) (tid : ThreadId) : Prop :=
  ∃ tcb, state.tcb tid = some tcb ∧ tcb.state = .runnable ∧ tcb.entry ≠ 0

/-- The thread is ready once the outgoing thread was charged. -/
def ReadyAt (state : KernelState) (nowNs : Nat) (tid : ThreadId) : Prop :=
  (state.sched.account nowNs).runState tid = some .ready

/-- A thread was switched to exactly if a ready one can be started.  The running thread is the
one that the processor executes, and it is not ready as well.  What the processor executed
before went to the record of its own thread. -/
structure Drives (executing : Option ThreadId) (nowNs : Nat) (before : KernelState)
    (outcome : ScheduleOutcome) (switch : Option ContextSwitch) (after : KernelState) :
    Prop where
  conserving : (∃ next, outcome = .switched next) ↔
    ∃ tid, before.ReadyAt nowNs tid ∧ before.Startable tid
  running : after.sched.running = executesAfter executing switch
  once : ∀ tid, executesAfter executing switch = some tid →
    after.sched.runState tid = some .running
  saved : ∀ called, switch = some called → called.saved = executing

/-- The step answers, and does what it has to do. -/
def StepsRight (executing : Option ThreadId) (nowNs : Nat) (before : KernelState) : Prop :=
  ∃ outcome switch after, scheduleStep nowNs before = .ok (outcome, switch) after ∧
    Drives executing nowNs before outcome switch after

/-- The processor executes the running thread, whose record is there if another thread comes,
and the thread that goes before all other ready ones can be started.  Or the processor
executes nothing, and nothing can be started. -/
def Drivable (executing : Option ThreadId) (nowNs : Nat) (before : KernelState) : Prop :=
  (∃ entity, (before.sched.account nowNs).Foremost entity ∧ before.Startable entity.thread ∧
      executing = before.sched.running ∧
      ∀ prev, before.sched.running = some prev → prev ≠ entity.thread →
        (before.tcb prev).isSome) ∨
    (executing = none ∧ ∀ tid, before.ReadyAt nowNs tid → ¬ before.Startable tid)

/-! ## The step by cases -/

variable {state before : KernelState} {nowNs : Nat} {tid next prev : ThreadId}
  {executing : Option ThreadId}

theorem isStartable_iff : state.isStartable tid = true ↔ state.Startable tid := by
  unfold isStartable Startable
  cases here : state.tcb tid with
  | none =>
      apply iff_of_false Bool.false_ne_true
      rintro ⟨tcb, there, -⟩
      cases there
  | some tcb =>
      rw [Option.map_some, Option.getD_some, Bool.and_eq_true_iff, decide_eq_true_iff,
        bne_iff_ne]
      constructor
      · exact fun both => ⟨tcb, rfl, both⟩
      · rintro ⟨other, same, both⟩
        obtain rfl := Option.some.inj same
        exact both

/-- The state in which the next thread is picked. -/
def accounted (nowNs : Nat) (state : KernelState) : KernelState :=
  { state with sched := state.sched.account nowNs }

/-- The state in which the picked thread runs. -/
def dispatched (next : ThreadId) (nowNs : Nat) (state : KernelState) : KernelState :=
  { state with sched := (state.sched.account nowNs).setRunning next nowNs }

theorem tcb_dispatched (next : ThreadId) (nowNs : Nat) (state : KernelState) (tid : ThreadId) :
    (state.dispatched next nowNs).tcb tid = state.tcb tid := rfl

theorem scheduleStep_idle (picked : (before.sched.account nowNs).pickNext = none) :
    scheduleStep nowNs before = .ok (.idle, none) (before.accounted nowNs) := by
  unfold scheduleStep accountNow
  simp only [Exec.get_bind_run, Exec.modify_bind_run, picked]
  rfl

theorem scheduleStep_notStartable
    (picked : (before.sched.account nowNs).pickNext = some next)
    (refused : ¬ before.Startable next) :
    scheduleStep nowNs before = .ok (.notStartable next, none) (before.accounted nowNs) := by
  have unstartable : (before.accounted nowNs).isStartable next = false :=
    Bool.eq_false_of_not_eq_true fun can => refused (isStartable_iff.1 can)
  unfold accounted at unstartable
  unfold scheduleStep accountNow
  simp only [Exec.get_bind_run, Exec.modify_bind_run, picked, unstartable]
  rfl

/-- The switch, unless the record of the outgoing thread is missing. -/
theorem switchTo_run {outgoing : Option ThreadId} (present : (state.tcb next).isSome) :
    switchTo outgoing next state =
      match outgoing with
      | none => .ok (.switched next, some ⟨none, next⟩) state
      | some prev =>
          if prev = next then .ok (.switched next, none) state
          else if (state.tcb prev).isSome then
            .ok (.switched next, some ⟨some prev, next⟩) state
          else .panic := by
  obtain ⟨tcb, there⟩ := Option.isSome_iff_exists.1 present
  rw [switchTo, Exec.get_bind_run, there, Exec.expect, Exec.pure_bind_run]
  cases outgoing with
  | none => rfl
  | some prev =>
      dsimp only
      by_cases same : prev = next
      · rw [if_neg (not_not_intro same), if_pos same]
        rfl
      · rw [if_pos same, if_neg same]
        cases found : state.tcb prev with
        | none => rfl
        | some other => rfl

theorem scheduleStep_startable (picked : (before.sched.account nowNs).pickNext = some next)
    (startable : before.Startable next) :
    scheduleStep nowNs before =
      switchTo before.sched.running next (before.dispatched next nowNs) := by
  have can : (before.accounted nowNs).isStartable next = true := isStartable_iff.2 startable
  unfold accounted at can
  unfold scheduleStep accountNow
  simp only [Exec.get_bind_run, Exec.modify_bind_run, picked, can]
  rw [if_neg (by decide), Exec.bind_of_ok (quietly_run (Scheduler.dispatch_state ..))]
  rfl

/-! ## When a step is right -/

theorem foremost_of_picked (picked : (before.sched.account nowNs).pickNext = some next)
    {entity : SchedEntity} (foremost : (before.sched.account nowNs).Foremost entity) :
    entity.thread = next := by
  have also := (before.sched.account nowNs).pickNext_eq_some_iff.2 ⟨entity, foremost, rfl⟩
  exact Option.some.inj (also.symm.trans picked)

/-- A step that switches to nothing is right for a processor that executes nothing, if nothing
could be started. -/
theorem drives_nothing_iff {outcome : ScheduleOutcome}
    (nothing : ∀ next, outcome ≠ .switched next) :
    Drives executing nowNs before outcome none (before.accounted nowNs) ↔
      executing = none ∧ ∀ tid, before.ReadyAt nowNs tid → ¬ before.Startable tid := by
  have idle : (before.accounted nowNs).sched.running = none := Scheduler.running_account _ _
  constructor
  · intro drives
    constructor
    · exact drives.running.symm.trans idle
    · intro tid ready startable
      obtain ⟨next, same⟩ := drives.conserving.2 ⟨tid, ready, startable⟩
      exact nothing next same
  · rintro ⟨rfl, unstartable⟩
    constructor
    · apply iff_of_false
      · rintro ⟨next, same⟩
        exact nothing next same
      · rintro ⟨tid, ready, startable⟩
        exact unstartable tid ready startable
    · exact idle
    · intro tid runs
      cases runs
    · intro called same
      cases same

/-- A step that switches is right if it saves what the processor executes. -/
theorem drives_switched_iff {switch : Option ContextSwitch}
    (threadsMatch : before.sched.ThreadsMatch)
    (picked : (before.sched.account nowNs).pickNext = some next)
    (startable : before.Startable next) :
    Drives executing nowNs before (.switched next) switch (before.dispatched next nowNs) ↔
      executesAfter executing switch = some next ∧
        ∀ called, switch = some called → called.saved = executing := by
  have ready : before.ReadyAt nowNs next :=
    Scheduler.runState_of_pickNext (threadsMatch.account nowNs) picked
  have admitted : ((before.sched.account nowNs).entity next).isSome := by
    obtain ⟨entity, there, -⟩ := Option.map_eq_some_iff.1 ready
    rw [there]
    rfl
  have running : (before.dispatched next nowNs).sched.running = some next :=
    Scheduler.running_setRunning_of_admitted admitted nowNs
  have runs : (before.dispatched next nowNs).sched.runState next = some .running := by
    have stored := Scheduler.runState_setRunning next nowNs (before.sched.account nowNs) next
    rw [if_pos rfl, ready] at stored
    exact stored
  constructor
  · intro drives
    exact ⟨drives.running.symm.trans running, drives.saved⟩
  · rintro ⟨executes, saved⟩
    constructor
    · exact iff_of_true ⟨next, rfl⟩ ⟨next, ready, startable⟩
    · rw [executes]
      exact running
    · intro tid same
      obtain rfl := Option.some.inj (executes.symm.trans same)
      exact runs
    · exact saved

theorem stepsRight_iff_of_ok {outcome : ScheduleOutcome} {switch : Option ContextSwitch}
    {after : KernelState} (ran : scheduleStep nowNs before = .ok (outcome, switch) after) :
    StepsRight executing nowNs before ↔ Drives executing nowNs before outcome switch after := by
  constructor
  · rintro ⟨outcome', switch', after', ran', drives⟩
    obtain ⟨same, rfl⟩ := Outcome.ok.inj (ran.symm.trans ran')
    obtain ⟨rfl, rfl⟩ := Prod.mk.inj same
    exact drives
  · exact fun drives => ⟨outcome, switch, after, ran, drives⟩

/-- When the picked thread cannot be started, the processor must have nothing to do. -/
theorem drivable_iff_of_unstartable
    (unstartable : ∀ next, (before.sched.account nowNs).pickNext = some next →
      ¬ before.Startable next) :
    Drivable executing nowNs before ↔
      executing = none ∧ ∀ tid, before.ReadyAt nowNs tid → ¬ before.Startable tid := by
  apply or_iff_right
  rintro ⟨entity, foremost, startable, -⟩
  apply unstartable entity.thread _ startable
  exact (before.sched.account nowNs).pickNext_eq_some_iff.2 ⟨entity, foremost, rfl⟩

/-- When the picked thread can be started, the processor must execute the running thread. -/
theorem drivable_iff_of_startable (threadsMatch : before.sched.ThreadsMatch)
    (picked : (before.sched.account nowNs).pickNext = some next)
    (startable : before.Startable next) :
    Drivable executing nowNs before ↔
      executing = before.sched.running ∧
        ∀ prev, before.sched.running = some prev → prev ≠ next → (before.tcb prev).isSome := by
  constructor
  · rintro (⟨entity, foremost, -, drives⟩ | ⟨-, unstartable⟩)
    · rw [foremost_of_picked picked foremost] at drives
      exact drives
    · have ready := Scheduler.runState_of_pickNext (threadsMatch.account nowNs) picked
      exact absurd startable (unstartable next ready)
  · intro drives
    obtain ⟨entity, foremost, same⟩ :=
      (before.sched.account nowNs).pickNext_eq_some_iff.1 picked
    rw [← same] at startable drives
    exact .inl ⟨entity, foremost, startable, drives⟩

/-- What makes a step right, in a kernel whose entities are in their places. -/
theorem stepsRight_iff (threadsMatch : before.sched.ThreadsMatch) :
    StepsRight executing nowNs before ↔ Drivable executing nowNs before := by
  cases picked : (before.sched.account nowNs).pickNext with
  | none =>
      rw [stepsRight_iff_of_ok (scheduleStep_idle picked), drives_nothing_iff,
        drivable_iff_of_unstartable]
      · intro next same
        cases picked.symm.trans same
      · intro next same
        cases same
  | some next =>
      by_cases startable : before.Startable next
      · have present : ((before.dispatched next nowNs).tcb next).isSome := by
          obtain ⟨tcb, there, -⟩ := startable
          exact Option.isSome_iff_exists.2 ⟨tcb, there⟩
        have ran := scheduleStep_startable picked startable
        rw [switchTo_run present] at ran
        rw [drivable_iff_of_startable threadsMatch picked startable]
        cases runs : before.sched.running with
        | none =>
            rw [runs] at ran
            rw [stepsRight_iff_of_ok ran, drives_switched_iff threadsMatch picked startable]
            constructor
            · rintro ⟨-, saved⟩
              exact ⟨(saved _ rfl).symm, nofun⟩
            · rintro ⟨rfl, -⟩
              refine ⟨rfl, ?_⟩
              intro called same
              rw [← Option.some.inj same]
        | some prev =>
            rw [runs] at ran
            dsimp only at ran
            rw [tcb_dispatched] at ran
            by_cases same : prev = next
            · rw [if_pos same] at ran
              rw [stepsRight_iff_of_ok ran, drives_switched_iff threadsMatch picked startable,
                same]
              constructor
              · rintro ⟨executes, -⟩
                refine ⟨executes, ?_⟩
                intro other here ne
                exact absurd (Option.some.inj here).symm ne
              · rintro ⟨executes, -⟩
                exact ⟨executes, nofun⟩
            · rw [if_neg same] at ran
              by_cases recorded : (before.tcb prev).isSome
              · rw [if_pos recorded] at ran
                rw [stepsRight_iff_of_ok ran,
                  drives_switched_iff threadsMatch picked startable]
                constructor
                · rintro ⟨-, saved⟩
                  refine ⟨(saved _ rfl).symm, ?_⟩
                  intro other here _
                  rw [← Option.some.inj here]
                  exact recorded
                · rintro ⟨rfl, -⟩
                  refine ⟨rfl, ?_⟩
                  intro called here
                  rw [← Option.some.inj here]
              · rw [if_neg recorded] at ran
                apply iff_of_false
                · rintro ⟨outcome, switch, after, ran', -⟩
                  cases ran.symm.trans ran'
                · rintro ⟨-, present⟩
                  exact recorded (present prev rfl same)
      · rw [stepsRight_iff_of_ok (scheduleStep_notStartable picked startable),
          drives_nothing_iff, drivable_iff_of_unstartable]
        · intro other same
          obtain rfl := Option.some.inj (picked.symm.trans same)
          exact startable
        · intro other same
          cases same

/-! ## Both operations keep entities in their places -/

/-- Every entity is under its own thread. -/
def InPlace (state : KernelState) : Prop := state.sched.ThreadsMatch

theorem accountNow_keeps (nowNs : Nat) : (accountNow nowNs).Preserves InPlace :=
  .modify fun _ inPlace => Scheduler.ThreadsMatch.account inPlace nowNs

theorem dispatch_keeps (tid : ThreadId) (nowNs : Nat) :
    (quietly (Scheduler.dispatch tid nowNs)).Preserves InPlace := by
  intro state final inPlace ended
  rw [quietly_run (Scheduler.dispatch_state ..)] at ended
  rw [← Option.some.inj ended]
  exact Scheduler.ThreadsMatch.setRunning inPlace tid nowNs

theorem noteReady_keeps (tid : ThreadId) (nowNs : Nat) :
    (quietly (Scheduler.noteReady tid nowNs)).Preserves InPlace := by
  intro state final inPlace ended
  rw [quietly_run (Scheduler.noteReady_state ..)] at ended
  rw [← Option.some.inj ended]
  exact Scheduler.ThreadsMatch.setReady inPlace tid nowNs

theorem switchTo_reads (outgoing : Option ThreadId) (next : ThreadId) :
    (switchTo outgoing next).Reads := by
  apply Exec.Reads.bind .get
  intro state
  apply Exec.Reads.bind (.expect _)
  intro tcb
  cases outgoing with
  | none => exact .pure _
  | some prev =>
      dsimp only
      split
      · apply Exec.Reads.bind (.expect _)
        exact fun _ => .pure _
      · exact .pure _

theorem scheduleStep_keeps (nowNs : Nat) : (scheduleStep nowNs).Preserves InPlace := by
  apply Exec.Preserves.bind (Exec.Reads.get.preserves InPlace)
  intro before
  apply Exec.Preserves.bind (accountNow_keeps nowNs)
  intro _
  apply Exec.Preserves.bind (Exec.Reads.get.preserves InPlace)
  intro state
  cases state.sched.pickNext with
  | none => exact (Exec.Reads.pure _).preserves InPlace
  | some next =>
      dsimp only
      split
      · exact (Exec.Reads.pure _).preserves InPlace
      · apply Exec.Preserves.bind (dispatch_keeps next nowNs)
        exact fun _ => (switchTo_reads _ next).preserves InPlace

theorem yieldTo_keeps (source target : ThreadId) (nowNs : Nat) :
    (yieldTo source target nowNs).Preserves InPlace := by
  unfold yieldTo
  split
  · exact (Exec.Reads.pure _).preserves InPlace
  · apply Exec.Preserves.bind (Exec.Reads.get.preserves InPlace)
    intro state
    have rest : (do
        quietly (Scheduler.dispatch target nowNs)
        let state ← Exec.get
        let _ ← Exec.expect (state.tcb target)
        let _ ← Exec.expect (state.tcb source)
        return some ⟨some source, target⟩ :
          Exec KernelState SyscallError (Option ContextSwitch)).Preserves InPlace := by
      apply Exec.Preserves.bind (dispatch_keeps target nowNs)
      intro _
      apply Exec.Preserves.bind (Exec.Reads.get.preserves InPlace)
      intro state
      apply Exec.Preserves.bind ((Exec.Reads.expect _).preserves InPlace)
      intro _
      apply Exec.Preserves.bind ((Exec.Reads.expect _).preserves InPlace)
      exact fun _ => (Exec.Reads.pure _).preserves InPlace
    split
    · apply Exec.Preserves.bind (noteReady_keeps source nowNs)
      exact fun _ => rest
    · exact rest

end KernelState

/-! ## Reachable states -/

/-- What can happen to a machine, with the two operations that drive its processor. -/
inductive DrivenEvent where
  | kernelEvent (event : KernelEvent)
  | schedulingOp (op : SchedulingOp)
  | scheduleStep (nowNs : Nat)
  | yieldTo (source target : ThreadId) (nowNs : Nat)
  deriving DecidableEq, Repr

namespace DrivenEvent

variable {μ : Type} (hal : HalInterface μ)

def exec : DrivenEvent → Exec (Machine μ) SyscallError Unit
  | kernelEvent event => Machine.perform hal event
  | schedulingOp op => op.exec hal
  | scheduleStep nowNs => Machine.onKernel do
      let _ ← KernelState.scheduleStep nowNs
  | yieldTo source target nowNs => Machine.onKernel do
      let _ ← KernelState.yieldTo source target nowNs

/-- Machines under everything that can happen to them. -/
def system : TransitionSystem (Machine μ) DrivenEvent where
  Initial := Machine.Boots
  Step before event after := (event.exec hal before).state? = some after

/-- An event that is also an operation of the scheduler. -/
theorem inPlace_of_op (op : SchedulingOp) {before after : Machine μ}
    (inPlace : before.kernel.InPlace)
    (taken : (SchedulingOp.system hal).Step before op after) : after.kernel.InPlace := by
  unfold KernelState.InPlace at *
  rw [SchedulingOp.sched_of_step hal taken]
  exact SchedulingOp.kept_threadsMatch.resched inPlace op

theorem inPlace_of_event {event : KernelEvent} {before after : Machine μ}
    (inPlace : before.kernel.InPlace)
    (taken : (Machine.system hal).Step before event after) : after.kernel.InPlace := by
  cases event with
  | tick nowNs => exact inPlace_of_op hal (.preemptTick nowNs) inPlace taken
  | syscall caller op nowNs =>
      exact inPlace_of_op hal (.syscall caller op nowNs nowNs) inPlace taken
  | initUserThread tid entry nowNs =>
      exact inPlace_of_op hal (.initUserThread tid entry nowNs) inPlace taken
  | terminate tid nowNs =>
      exact inPlace_of_op hal (.terminateThread tid nowNs) inPlace taken
  | terminateAndHandoff tid incoming nowNs =>
      exact inPlace_of_op hal (.terminateThreadAndHandoff tid incoming nowNs) inPlace taken
  | startThread tid entry nowNs =>
      have ended := (Machine.onKernel_state taken).1
      rw [KernelState.startThread, KernelState.admitThread_run] at ended
      rw [← Option.some.inj ended]
      exact (SchedulingOp.threadsMatch_setAdmitted inPlace tid _ _ _).setReady tid nowNs
  | carve pages =>
      have ended := Machine.discard_state (Machine.onKernel_state taken).1
      unfold KernelState.InPlace
      rw [(KernelState.carve_spawns pages _ _ ended).frame]
      exact inPlace
  | spawn kind sizes =>
      have ended := Machine.discard_state (Machine.onKernel_state taken).1
      unfold KernelState.InPlace
      rw [(KernelState.spawn_spawns kind sizes _ _ ended).frame]
      exact inPlace
  | grantCapInto src cap dst rights =>
      have ended := Machine.discard_state (Machine.onKernel_state taken).1
      rcases KernelState.grantCapInto_state ended with same | ⟨tables, -, same⟩
      · rw [same]
        exact inPlace
      · rw [same]
        exact inPlace

theorem inPlace_of_reachable {machine : Machine μ}
    (reachable : (system hal).Reachable TransitionSystem.anyStep machine) :
    machine.kernel.InPlace := by
  let holds (machine : Machine μ) : Prop := machine.kernel.InPlace
  have initially : ∀ start, (system hal).Initial start → holds start := by
    rintro start ⟨kernel, fromBoot, same⟩
    have booted : kernel.InPlace := fromBoot.booted.threadsMatch
    change start.kernel.InPlace
    rcases same with rfl | ⟨base, len, installed⟩
    · exact booted
    · rw [installed]
      exact booted
  apply reachable.invariant initially
  intro before event after _ inPlace taken
  cases event with
  | kernelEvent event => exact inPlace_of_event hal inPlace taken
  | schedulingOp op => exact inPlace_of_op hal op inPlace taken
  | scheduleStep nowNs =>
      have ended := Machine.discard_state (Machine.onKernel_state taken).1
      exact KernelState.scheduleStep_keeps nowNs _ _ inPlace ended
  | yieldTo source target nowNs =>
      have ended := Machine.discard_state (Machine.onKernel_state taken).1
      exact KernelState.yieldTo_keeps source target nowNs _ _ inPlace ended

end DrivenEvent

/-- When a scheduling step of a reachable kernel is work-conserving, and leaves the processor
to the running thread. -/
theorem scheduleStep_right_iff {μ : Type} (hal : HalInterface μ) {machine : Machine μ}
    (reachable : (DrivenEvent.system hal).Reachable TransitionSystem.anyStep machine)
    (executing : Option ThreadId) (nowNs : Nat) :
    machine.kernel.StepsRight executing nowNs ↔ machine.kernel.Drivable executing nowNs :=
  KernelState.stepsRight_iff (DrivenEvent.inPlace_of_reachable hal reachable)

/-! ## Two small runs -/

/-- The machine after some events. -/
def DrivenEvent.after (events : List DrivenEvent) : Machine Unit :=
  (TransitionSystem.runWhile (fun machine event => (event.exec sampleHal machine).state?)
    (fun _ _ => true) events sampleMachine).getD sampleMachine

/-- The root task, whose entry point is 0, makes an endpoint and a thread. -/
def makesThread : List DrivenEvent :=
  [ .kernelEvent (.tick 0),
    .kernelEvent (.syscall 0 (.retype 0 .endpoint 1) 1),
    .kernelEvent (.syscall 0 (.retype 0 .threadControlBlock 1) 2) ]

/-- The root task starts the thread, and goes on. -/
def startsThread : List DrivenEvent := makesThread ++ [.kernelEvent (.startThread 1 4096 3)]

/-- The thread starts after the root task blocked in a call. -/
def startsThreadAfterCall : List DrivenEvent :=
  makesThread ++
    [ .kernelEvent (.syscall 0 (.call 2 (.new 7)) 3),
      .kernelEvent (.startThread 1 4096 4) ]

theorem DrivenEvent.reachable_after {events : List DrivenEvent}
    (ran : (TransitionSystem.runWhile
      (fun machine event => (DrivenEvent.exec sampleHal event machine).state?)
      (fun _ _ => true) events sampleMachine).isSome) :
    (DrivenEvent.system sampleHal).Reachable TransitionSystem.anyStep (after events) := by
  obtain ⟨machine, reached⟩ := Option.isSome_iff_exists.1 ran
  have same : after events = machine := by
    rw [after, reached]
    rfl
  have run : (DrivenEvent.system sampleHal).Reaches (fun _ _ => true = true) sampleMachine
      machine := (TransitionSystem.Reaches.refl sampleMachine).runWhile
    (fun _ _ _ taken => taken) reached
  rw [same]
  exact ⟨sampleMachine, sampleMachine_boots, run.mono fun _ _ _ => trivial⟩

theorem scheduleStep_right_sample :
    (DrivenEvent.after startsThread).kernel.StepsRight (some 0) 4 ↔
      (DrivenEvent.after startsThread).kernel.Drivable (some 0) 4 :=
  scheduleStep_right_iff sampleHal (DrivenEvent.reachable_after (by decide +kernel)) (some 0) 4

/-- While the root task runs it hides the thread that it started.  Where it blocked before, the
thread is switched to, and the context of the root task is thrown away. -/
theorem startable_hidden :
    ((DrivenEvent.system sampleHal).Reachable TransitionSystem.anyStep
        (DrivenEvent.after startsThread) ∧
      (DrivenEvent.after startsThread).kernel.sched.running = some 0 ∧
      (DrivenEvent.after startsThread).kernel.ReadyAt 4 1 ∧
      (DrivenEvent.after startsThread).kernel.isStartable 1 = true ∧
      ¬ (DrivenEvent.after startsThread).kernel.StepsRight (some 0) 4) ∧
    (DrivenEvent.system sampleHal).Reachable TransitionSystem.anyStep
        (DrivenEvent.after startsThreadAfterCall) ∧
      (DrivenEvent.after startsThreadAfterCall).kernel.sched.running = none ∧
      ¬ (DrivenEvent.after startsThreadAfterCall).kernel.StepsRight (some 0) 5 := by
  refine ⟨⟨DrivenEvent.reachable_after (by decide +kernel), by decide +kernel,
    by unfold KernelState.ReadyAt; decide +kernel, by decide +kernel, ?_⟩,
    DrivenEvent.reachable_after (by decide +kernel), by decide +kernel, ?_⟩
  · rintro ⟨outcome, switch, final, ran, drives⟩
    have switched : (KernelState.scheduleStep 4 (DrivenEvent.after startsThread).kernel).value? =
        some (.notStartable 0, none) := by decide +kernel
    have running : (KernelState.scheduleStep 4
        (DrivenEvent.after startsThread).kernel).state?.map (fun state => state.sched.running) =
          some none := by decide +kernel
    rw [ran] at switched running
    obtain ⟨-, rfl⟩ := Prod.mk.inj (Option.some.inj switched)
    cases (Option.some.inj running).symm.trans drives.running
  · rintro ⟨outcome, switch, final, ran, drives⟩
    have switched : (KernelState.scheduleStep 5
        (DrivenEvent.after startsThreadAfterCall).kernel).value? =
          some (.switched 1, some ⟨none, 1⟩) := by decide +kernel
    rw [ran] at switched
    obtain ⟨-, rfl⟩ := Prod.mk.inj (Option.some.inj switched)
    cases drives.saved _ rfl

end Simurgh
