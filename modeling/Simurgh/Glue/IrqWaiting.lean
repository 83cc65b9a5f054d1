import Simurgh.Core.Waiters
import Simurgh.Glue.Conduct

/-!
# Waiting for interrupts

The loop of `DRV_IRQ_WAIT` issues `Wait` for a thread, and issues it again after every
interrupt until there are bits.  Runs mix the turns of such loops with interrupts, syscalls
and everything else that reschedules.
-/

namespace Simurgh

/-- The operation that an event is, if it uses the scheduler. -/
def KernelEvent.scheduling : KernelEvent → Option SchedulingOp
  | .tick nowNs => some (.preemptTick nowNs)
  | .syscall caller op nowNs => some (.syscall caller op nowNs nowNs)
  | .initUserThread tid entry nowNs => some (.initUserThread tid entry nowNs)
  | .terminate tid nowNs => some (.terminateThread tid nowNs)
  | .terminateAndHandoff tid incoming nowNs => some (.terminateThreadAndHandoff tid incoming nowNs)
  | .startThread _ _ _ => none
  | .carve _ => none
  | .spawn _ _ => none
  | .grantCapInto _ _ _ _ => none

/-- The glue, and the loops that threads are in. -/
structure IrqWaits (μ : Type) where
  glue : Glue μ
  /-- The notification for which the loop of a thread waits. -/
  loops : ThreadId → Option CapId

inductive WaitStep where
  | scheduling (op : SchedulingOp)
  | event (event : KernelEvent)
  | interrupt (line : Nat)
  /-- A turn of the loop, the first one or a further one. -/
  | irqWait (caller : ThreadId) (notification : CapId)
  deriving DecidableEq, Repr

/-- The scheduling operation that a step is. -/
def WaitStep.op? : WaitStep → Option SchedulingOp
  | .scheduling op => some op
  | .event happening => happening.scheduling
  | .interrupt _ => none
  | .irqWait _ _ => none

/-- The thread whose `Wait` a step is. -/
def WaitStep.waiter? (step : WaitStep) : Option ThreadId :=
  match step.op? with
  | some (.syscall caller (.wait _) _ _) => some caller
  | _ => none

namespace IrqWaits

variable {μ : Type} (clock : Nat → Nat) (hal : HalInterface μ)

def withMachine (waits : IrqWaits μ) (machine : Machine μ) : IrqWaits μ :=
  { waits with glue := { waits.glue with machine } }

/-- What a step leads to.  A loop goes on as long as its turns end with `Blocked`. -/
def next (waits : IrqWaits μ) : WaitStep → Option (IrqWaits μ)
  | .scheduling op => (op.exec hal waits.glue.machine).state?.map waits.withMachine
  | .event event => (Machine.perform hal event waits.glue.machine).state?.map waits.withMachine
  | .interrupt line =>
      (GlueM.irqTrampoline clock line waits.glue).state?.map fun glue => { waits with glue }
  | .irqWait caller notification =>
      match GlueM.drvIrqWaitStep clock hal caller notification waits.glue with
      | .ok outcome glue => some
          { glue
            loops := Function.update waits.loops caller
              (if outcome = .blocked then some notification else none) }
      | .err _ glue => some { waits with glue }
      | .panic => none

/-- A thread issues `Wait` while it is the running one, or its loop issues it again. -/
def Admits (waits : IrqWaits μ) : WaitStep → Prop
  | .irqWait caller notification =>
      waits.glue.kernel.sched.running = some caller ∨ waits.loops caller = some notification
  | step => ∀ caller ∈ step.waiter?, waits.glue.kernel.sched.running = some caller

instance (waits : IrqWaits μ) (step : WaitStep) : Decidable (waits.Admits step) :=
  match step with
  | .irqWait caller notification => inferInstanceAs (Decidable
      (waits.glue.kernel.sched.running = some caller ∨ waits.loops caller = some notification))
  | .scheduling op => inferInstanceAs (Decidable (∀ caller ∈ (WaitStep.scheduling op).waiter?,
      waits.glue.kernel.sched.running = some caller))
  | .event event => inferInstanceAs (Decidable (∀ caller ∈ (WaitStep.event event).waiter?,
      waits.glue.kernel.sched.running = some caller))
  | .interrupt line => inferInstanceAs (Decidable (∀ caller ∈ (WaitStep.interrupt line).waiter?,
      waits.glue.kernel.sched.running = some caller))

/-- A step rouses nobody in a waiter list, and a loop issues `Wait` only for a thread that is in
none. -/
def Spares (waits : IrqWaits μ) : WaitStep → Prop
  | .scheduling op => op.Spares waits.glue.kernel
  | .event event =>
      (∀ op ∈ event.scheduling, op.Spares waits.glue.kernel) ∧
        (event.scheduling = none → ∀ tid ∈ event.starts, tid ∉ waits.glue.kernel.waiting)
  | .interrupt _ => True
  | .irqWait caller notification =>
      ∀ notif ∈ waits.glue.kernel.notificationAt caller notification .read,
        notif.signalWord ≠ 0 ∨ notif.waiters.length < notifWaiters →
          caller ∉ waits.glue.kernel.waiting ∧
            (waits.glue.kernel.sched.runState caller).isSome

instance (waits : IrqWaits μ) (step : WaitStep) : Decidable (waits.Spares step) :=
  match step with
  | .scheduling op => inferInstanceAs (Decidable (op.Spares _))
  | .event _ => inferInstanceAs (Decidable (_ ∧ _))
  | .interrupt _ => inferInstanceAs (Decidable True)
  | .irqWait caller notification => inferInstanceAs (Decidable
      (∀ notif ∈ waits.glue.kernel.notificationAt caller notification .read, _ → _))

/-- The machine has booted, and no thread is in a loop. -/
def system : TransitionSystem (IrqWaits μ) WaitStep where
  Initial waits := waits.glue.machine.Boots ∧ waits.loops = fun _ => none
  Step before step after := before.next clock hal step = some after

/-- Waiting threads are listed once and blocked, and every `Wait` that is made in the state
fails without an effect or leaves its caller running. -/
structure WaitsRight (meets : IrqWaits μ → WaitStep → Prop) (waits : IrqWaits μ) : Prop where
  /-- Each thread occurs at most once in all lists together. -/
  once : waits.glue.kernel.waiting.Nodup
  /-- A thread occurs there only while its entity is `Blocked`. -/
  blocked : ∀ tid ∈ waits.glue.kernel.waiting,
    waits.glue.kernel.sched.runState tid = some .blocked
  /-- A `Wait` that fails changes nothing. -/
  failed : ∀ caller cap nowNs error machine,
    Machine.dispatch hal caller nowNs (.wait cap) waits.glue.machine = .err error machine →
      machine = waits.glue.machine
  /-- A `Wait` that returns bits leaves its caller `Running` and in no list. -/
  taken : ∀ caller cap nowNs laterNs bits machine,
    meets waits (.scheduling (.syscall caller (.wait cap) nowNs laterNs)) →
    Machine.dispatch hal caller nowNs (.wait cap) waits.glue.machine = .ok (.value bits) machine →
      machine.kernel.sched.runState caller = some .running ∧ caller ∉ machine.kernel.waiting
  /-- And so does a turn of a loop. -/
  ready : ∀ caller cap bits later, meets waits (.irqWait caller cap) →
    GlueM.drvIrqWaitStep clock hal caller cap waits.glue = .ok (.ready bits) later →
      later.kernel.sched.runState caller = some .running ∧ caller ∉ later.kernel.waiting

/-! ## Turns of a loop -/

section Turns

variable {clock hal} {glue later : Glue μ} {caller : ThreadId} {cap : CapId}

theorem performs_scheduling {event : KernelEvent} {op : SchedulingOp}
    (same : event.scheduling = some op) : Machine.perform hal event = op.exec hal := by
  cases event with
  | tick nowNs =>
      obtain rfl := Option.some.inj same
      rfl
  | syscall caller call nowNs =>
      obtain rfl := Option.some.inj same
      rfl
  | initUserThread tid entry nowNs =>
      obtain rfl := Option.some.inj same
      rfl
  | terminate tid nowNs =>
      obtain rfl := Option.some.inj same
      rfl
  | terminateAndHandoff tid incoming nowNs =>
      obtain rfl := Option.some.inj same
      rfl
  | _ => cases same

/-- The glue after a call of the kernel.  The clock has been read once. -/
def called (glue : Glue μ) (caller : ThreadId) (op : SyscallOp) (machine : Machine μ) : Glue μ :=
  { glue with
    machine
    readings := glue.readings + 1
    trace := glue.trace.calls caller (glue.kernel.delivers caller op) }

theorem dispatch_of_ok {op : SyscallOp} {value : SyscallReturn} {machine : Machine μ}
    (ran : Machine.dispatch hal caller (clock glue.readings) op glue.machine = .ok value machine) :
    GlueM.dispatch clock hal caller op glue =
      .ok (.ok value) (called glue caller op machine) := by
  have ended : ∀ traced : Glue μ, traced.machine = glue.machine →
      GlueM.result (Machine.dispatch hal caller (clock glue.readings) op) traced =
        .ok (.ok value) { traced with machine } := by
    intro traced same
    rw [GlueM.result, same, ran]
  rw [GlueM.dispatch, Exec.bind_of_ok (GlueM.nowNs_run clock glue), Exec.modify_bind_run]
  exact ended _ rfl

theorem dispatch_of_err {op : SyscallOp} {error : SyscallError} {machine : Machine μ}
    (ran : Machine.dispatch hal caller (clock glue.readings) op glue.machine = .err error machine) :
    GlueM.dispatch clock hal caller op glue =
      .ok (.error error) (called glue caller op machine) := by
  have ended : ∀ traced : Glue μ, traced.machine = glue.machine →
      GlueM.result (Machine.dispatch hal caller (clock glue.readings) op) traced =
        .ok (.error error) { traced with machine } := by
    intro traced same
    rw [GlueM.result, same, ran]
  rw [GlueM.dispatch, Exec.bind_of_ok (GlueM.nowNs_run clock glue), Exec.modify_bind_run]
  exact ended _ rfl

/-- The glue after a thread was dispatched. -/
def dispatched (clock : Nat → Nat) (caller : ThreadId) (glue : Glue μ) : Glue μ :=
  ({ glue with readings := glue.readings + 1 } : Glue μ).withKernel
    { glue.kernel with sched := glue.kernel.sched.setRunning caller (clock glue.readings) }

theorem schedDispatch_run (caller : ThreadId) (glue : Glue μ) :
    GlueM.schedDispatch clock caller glue = .ok () (dispatched clock caller glue) := by
  rw [GlueM.schedDispatch, Exec.bind_of_ok (GlueM.nowNs_run clock glue)]
  exact GlueM.kernel_run (KernelState.quietly_run (Scheduler.dispatch_state ..))

section Ends

variable {machine : Machine μ}

theorem turn_of_err {error : SyscallError}
    (refused : Machine.dispatch hal caller (clock glue.readings) (.wait cap) glue.machine =
      .err error machine) :
    GlueM.drvIrqWaitStep clock hal caller cap glue =
      .ok .error (called glue caller (.wait cap) machine) := by
  rw [GlueM.drvIrqWaitStep, Exec.bind_of_ok (dispatch_of_err refused)]
  rfl

theorem turn_of_value {bits : Nat}
    (answered : Machine.dispatch hal caller (clock glue.readings) (.wait cap) glue.machine =
      .ok (.value bits) machine) :
    GlueM.drvIrqWaitStep clock hal caller cap glue =
      .ok (.ready bits) (dispatched clock caller (called glue caller (.wait cap) machine)) := by
  rw [GlueM.drvIrqWaitStep, Exec.bind_of_ok (dispatch_of_ok answered)]
  exact Exec.bind_of_ok (schedDispatch_run caller _) _

theorem turn_of_blocked
    (answered : Machine.dispatch hal caller (clock glue.readings) (.wait cap) glue.machine =
      .ok .blocked machine) :
    GlueM.drvIrqWaitStep clock hal caller cap glue =
      .ok .blocked (called glue caller (.wait cap) machine) := by
  rw [GlueM.drvIrqWaitStep, Exec.bind_of_ok (dispatch_of_ok answered)]
  rfl

end Ends

/-- How a turn ends: as the `Wait` in it does, and after bits the caller is dispatched. -/
theorem turn_cases (clock : Nat → Nat) (hal : HalInterface μ) (caller : ThreadId) (cap : CapId)
    (glue : Glue μ) :
    (∃ later, GlueM.drvIrqWaitStep clock hal caller cap glue = .ok .error later ∧
      later.kernel = glue.kernel) ∨
    ∃ nid notif, glue.kernel.notificationAt caller cap .read = some notif ∧
      glue.kernel.notifications.get? nid = some notif ∧
      ((notif.signalWord ≠ 0 ∧ ∃ later nowNs,
          GlueM.drvIrqWaitStep clock hal caller cap glue = .ok (.ready notif.signalWord) later ∧
          later.kernel = { glue.kernel.putNotification nid { notif with signalWord := 0 } with
            sched := glue.kernel.sched.setRunning caller nowNs }) ∨
        (notif.signalWord = 0 ∧ notif.waiters.length < notifWaiters) ∧ ∃ later nowNs,
          GlueM.drvIrqWaitStep clock hal caller cap glue = .ok .blocked later ∧
          later.kernel = { glue.kernel.putNotification nid
              { signalWord := 0, waiters := notif.waiters ++ [caller] } with
            sched := (glue.kernel.sched.account nowNs).setBlocked caller }) := by
  rcases Waiting.wait_cases hal caller cap (clock glue.readings) glue.machine with
    ⟨error, refused⟩ | ⟨nid, notif, named, present, ⟨pending, answered⟩ | ⟨empty, answered⟩⟩
  · exact .inl ⟨_, turn_of_err refused, rfl⟩
  · exact .inr ⟨nid, notif, named, present, .inl ⟨pending, _, _, turn_of_value answered, rfl⟩⟩
  · exact .inr ⟨nid, notif, named, present, .inr ⟨empty, _, _, turn_of_blocked answered, rfl⟩⟩

/-- A turn always ends. -/
theorem turn_ok (clock : Nat → Nat) (hal : HalInterface μ) (caller : ThreadId) (cap : CapId)
    (glue : Glue μ) :
    ∃ outcome later, GlueM.drvIrqWaitStep clock hal caller cap glue = .ok outcome later := by
  rcases turn_cases clock hal caller cap glue with
    ⟨later, failed, _⟩ | ⟨_, _, _, _, ⟨_, later, _, ready, _⟩ | ⟨_, later, _, blocked, _⟩⟩
  · exact ⟨_, later, failed⟩
  · exact ⟨_, later, ready⟩
  · exact ⟨_, later, blocked⟩

end Turns

/-! ## Runs -/

section Runs

variable {clock hal} {before after waits : IrqWaits μ} {step : WaitStep} {caller : ThreadId}
  {cap : CapId}

/-- The events that use the scheduler only to start a thread. -/
theorem waiting_unscheduled {event : KernelEvent} {before after : KernelState}
    (waiting : Waiting before) (unscheduled : event.scheduling = none)
    (spares : ∀ tid ∈ event.starts, tid ∉ before.waiting)
    (moves : Machine.Moves before event after) : Waiting after := by
  cases moves with
  | ticked => cases unscheduled
  | called => cases unscheduled
  | @started event tid entry priority nowNs isStart =>
      have same : ({ before.updateTcb tid fun tcb => { tcb with entry, state := .runnable } with
          sched := (before.sched.setAdmitted tid .interactive priority none).setReady
            tid nowNs } : KernelState).waiting = before.waiting :=
        KernelState.waiting_congr (KernelState.notifications_updateTcb ..)
      apply waiting.of_perm (.of_eq same)
      exact waiting.sleeping.admission (spares tid isStart) priority nowNs
  | killed isKill =>
      cases event with
      | terminate tid nowNs => cases unscheduled
      | terminateAndHandoff tid incoming nowNs => cases unscheduled
      | _ => cases isKill
  | spawned isSpawn spawns =>
      have same : after.waiting = before.waiting := by
        rw [spawns.frame]
        rfl
      apply waiting.of_perm (.of_eq same)
      rw [spawns.frame]
      exact waiting.sleeping
  | grantedInto => exact waiting.of_perm (.refl _) waiting.sleeping

/-- An interrupt signals the notification of its line. -/
theorem waiting_interrupted {kernel : KernelState} (waiting : Waiting kernel) (line nowNs : Nat) :
    Waiting (kernel.interrupted line nowNs) := by
  rw [KernelState.interrupted, KernelState.notificationOf]
  cases kernel.irqBindings.find? fun binding => binding.1 == line with
  | none => exact waiting
  | some binding =>
      rw [Option.bind_some]
      cases present : kernel.notifications.get? binding.2.2 with
      | none => exact waiting
      | some notif => exact waiting.signalled present _ nowNs

/-- A turn of the loop for a thread that is in no list. -/
theorem waiting_turn {glue later : Glue μ} {outcome : IrqWaitOutcome}
    (waiting : Waiting glue.kernel)
    (spares : ∀ notif ∈ glue.kernel.notificationAt caller cap .read,
      notif.signalWord ≠ 0 ∨ notif.waiters.length < notifWaiters →
        caller ∉ glue.kernel.waiting ∧ (glue.kernel.sched.runState caller).isSome)
    (ran : GlueM.drvIrqWaitStep clock hal caller cap glue = .ok outcome later) :
    Waiting later.kernel := by
  rcases turn_cases clock hal caller cap glue with
    ⟨final, failed, same⟩ | ⟨nid, notif, named, present, ⟨pending, final, nowNs, ready, same⟩ |
      ⟨⟨_, room⟩, final, nowNs, blocked, same⟩⟩
  · obtain ⟨_, rfl⟩ := Outcome.ok.inj (failed.symm.trans ran)
    rw [same]
    exact waiting
  · obtain ⟨unlisted, there⟩ := spares notif named (.inl pending)
    obtain ⟨_, rfl⟩ := Outcome.ok.inj (ready.symm.trans ran)
    rw [same]
    have dispatched := waiting.sleeping.setRunning unlisted nowNs
    exact waiting.of_perm (KernelState.waiting_taken present) dispatched
  · obtain ⟨unlisted, there⟩ := spares notif named (.inr room)
    obtain ⟨_, rfl⟩ := Outcome.ok.inj (blocked.symm.trans ran)
    rw [same]
    exact waiting.waits present unlisted there 0 nowNs

theorem waiting_next (waiting : Waiting before.glue.kernel) (admits : before.Admits step)
    (spares : before.Spares step) (stepped : before.next clock hal step = some after) :
    Waiting after.glue.kernel := by
  have scheduled : ∀ op, step.op? = some op → op.Spares before.glue.kernel →
      (∀ caller cap nowNs laterNs, op = .syscall caller (.wait cap) nowNs laterNs →
        before.glue.kernel.sched.running = some caller) →
      ∀ machine, (op.exec hal before.glue.machine).state? = some machine →
        Waiting machine.kernel :=
    fun op _ spares issued machine ran => waiting.scheduled ran issued spares
  cases step with
  | scheduling op =>
      obtain ⟨machine, ran, rfl⟩ := Option.map_eq_some_iff.1 stepped
      apply scheduled op rfl spares _ machine ran
      rintro caller cap nowNs laterNs rfl
      exact admits caller rfl
  | event event =>
      obtain ⟨machine, ran, rfl⟩ := Option.map_eq_some_iff.1 stepped
      cases same : event.scheduling with
      | some op =>
          rw [performs_scheduling same] at ran
          apply scheduled op same (spares.1 op same) _ machine ran
          rintro caller cap nowNs laterNs rfl
          apply admits caller
          rw [WaitStep.waiter?, WaitStep.op?, same]
          rfl
      | none =>
          exact waiting_unscheduled waiting same (spares.2 same) (Machine.step_moves hal ran)
  | interrupt line =>
      obtain ⟨glue, ran, rfl⟩ := Option.map_eq_some_iff.1 stepped
      rw [GlueM.irqTrampoline, Exec.bind_of_ok (GlueM.nowNs_run clock _)] at ran
      have signalled : ∀ (traced : Glue μ) (now : Nat),
          GlueM.kernel (KernelState.deviceInterrupt line now) traced =
            .ok () (traced.withKernel (traced.kernel.interrupted line now)) :=
        fun traced now => GlueM.kernel_run (KernelState.deviceInterrupt_run line now _)
      rw [signalled] at ran
      rw [← Option.some.inj ran]
      exact waiting_interrupted waiting line _
  | irqWait caller cap =>
      obtain ⟨outcome, glue, ran⟩ := turn_ok clock hal caller cap before.glue
      rw [next, ran] at stepped
      rw [← Option.some.inj stepped]
      exact waiting_turn waiting spares ran

theorem waiting_of_reachable
    (reachable : (system clock hal).Reachable
      (fun waits step => waits.Admits step ∧ waits.Spares step) waits) :
    Waiting waits.glue.kernel := by
  apply reachable.invariant
  · intro start isInitial
    exact Waiting.of_boots isInitial.1
  · intro before step after met waiting stepped
    exact waiting_next waiting met.1 met.2 stepped

/-- In every run in which `Wait` comes from running threads and from loops, and whose steps
spare the threads in the lists, the lists and the `Wait`s are right. -/
theorem waits_right
    (reachable : (system clock hal).Reachable
      (fun waits step => waits.Admits step ∧ waits.Spares step) waits) :
    WaitsRight clock hal (fun waits step => waits.Admits step ∧ waits.Spares step) waits := by
  have waiting := waiting_of_reachable reachable
  constructor
  · exact waiting.nodup
  · exact fun tid listed => waiting.blocked listed
  · intro caller cap nowNs error machine failed
    rcases Waiting.wait_cases hal caller cap nowNs waits.glue.machine with
      ⟨_, refused⟩ | ⟨_, _, _, _, ⟨_, answered⟩ | ⟨_, answered⟩⟩
    · obtain ⟨_, rfl⟩ := Outcome.err.inj (failed.symm.trans refused)
      rfl
    · rw [answered] at failed
      cases failed
    · rw [answered] at failed
      cases failed
  · rintro caller cap nowNs laterNs bits machine ⟨admits, spares⟩ taken
    have runs := admits caller rfl
    have unlisted := (waiting.sleeping.running runs).1
    rcases Waiting.wait_cases hal caller cap nowNs waits.glue.machine with
      ⟨_, refused⟩ | ⟨nid, notif, named, present, ⟨pending, answered⟩ | ⟨_, answered⟩⟩
    · rw [refused] at taken
      cases taken
    · obtain ⟨_, rfl⟩ := Outcome.ok.inj (taken.symm.trans answered)
      constructor
      · apply spares.2 caller
        change SchedulingOp.taker? waits.glue.machine.kernel _ = some caller
        rw [SchedulingOp.taker?, named, Option.bind_some, if_pos pending]
      · exact fun listed => unlisted ((KernelState.waiting_taken present).mem_iff.1 listed)
    · rw [answered] at taken
      cases taken
  · rintro caller cap bits later ⟨_, spares⟩ ready
    rcases turn_cases clock hal caller cap waits.glue with
      ⟨_, failed, _⟩ | ⟨nid, notif, named, present,
        ⟨pending, final, nowNs, returned, same⟩ | ⟨_, _, _, blocked, _⟩⟩
    · rw [failed] at ready
      cases ready
    · obtain ⟨unlisted, there⟩ := spares notif named (.inl pending)
      obtain ⟨_, rfl⟩ := Outcome.ok.inj (ready.symm.trans returned)
      rw [same]
      constructor
      · obtain ⟨run, found⟩ := Option.isSome_iff_exists.1 there
        rw [Scheduler.runState_setRunning, if_pos rfl, found]
        rfl
      · exact fun listed => unlisted ((KernelState.waiting_taken present).mem_iff.1 listed)
    · rw [blocked] at ready
      cases ready

end Runs

/-! ## Runs of a small machine -/

/-- The machine with which the runs begin. -/
def sampleWaits : IrqWaits Unit where
  glue :=
    { machine := sampleMachine, statics := .initial 0 0, readings := 0, trace := .empty }
  loops := fun _ => none

theorem reaches_runWhile {decides : IrqWaits μ → WaitStep → Bool} {steps : List WaitStep}
    {start final : IrqWaits μ}
    (ran : TransitionSystem.runWhile (next clock hal) decides steps start = some final) :
    (system clock hal).Reaches (fun waits step => decides waits step = true) start final :=
  (TransitionSystem.Reaches.refl start).runWhile (fun _ _ _ taken => taken) ran

theorem sampleWaits_initial : (system id sampleHal).Initial sampleWaits :=
  ⟨sampleMachine_boots, rfl⟩

/-- The root task waits, and the loop goes on after an interrupt of another line. -/
def otherInterrupt : List WaitStep :=
  [.event (.tick 1), .event (.syscall 0 (.retype 0 .notification 1) 2), .irqWait 0 2,
    .interrupt 5, .irqWait 0 2]

theorem waits_right_sample :
    ∃ waits : IrqWaits Unit, waits.glue.kernel.waiting = [0] ∧
      WaitsRight id sampleHal (fun waits step => waits.Admits step ∧ waits.Spares step)
        waits := by
  have ran : (TransitionSystem.runWhile (next id sampleHal)
      (fun waits step => decide (waits.Admits step ∧ waits.Spares step))
      (otherInterrupt.take 4) sampleWaits).any
        fun waits => waits.glue.kernel.waiting = [0] := by
    decide +kernel
  obtain ⟨waits, reached, listed⟩ := (Option.any_eq_true _ _).1 ran
  have admitted := (reaches_runWhile id sampleHal reached).mono
    fun _ _ met => of_decide_eq_true met
  exact ⟨waits, of_decide_eq_true listed, waits_right ⟨_, sampleWaits_initial, admitted⟩⟩

/-- The loop queues its thread a second time. -/
theorem loop_waits_twice :
    ∃ waits : IrqWaits Unit, (system id sampleHal).Reachable (fun waits step => waits.Admits step)
        waits ∧ ¬ WaitsRight id sampleHal (fun waits step => waits.Admits step) waits := by
  have ran : (TransitionSystem.runWhile (next id sampleHal)
      (fun waits step => decide (waits.Admits step)) otherInterrupt sampleWaits).any
        fun waits => waits.glue.kernel.waiting = [0, 0] := by
    decide +kernel
  obtain ⟨waits, reached, listed⟩ := (Option.any_eq_true _ _).1 ran
  have admitted := (reaches_runWhile id sampleHal reached).mono
    fun _ _ met => of_decide_eq_true met
  refine ⟨waits, ⟨_, sampleWaits_initial, admitted⟩, ?_⟩
  intro right
  have once := right.once
  rw [of_decide_eq_true listed] at once
  exact absurd once (by decide)

end IrqWaits

end Simurgh
