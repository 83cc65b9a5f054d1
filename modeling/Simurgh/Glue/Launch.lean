import Simurgh.Glue.UserMode

/-!
# Entering user mode

The kernel starts a second process and gives the processor to the root task.  From then
on traps are served.
-/

namespace Simurgh

namespace GlueM

variable {μ : Type} (clock : Nat → Nat)

/-- The shared frame, the root task, the worker in a space of its own, and the first
dispatch. -/
def setupTwoProcess (entry workerEntry : Nat) : GlueM μ Unit := do
  kernel (KernelState.carveAll [1])
  let glue ← Exec.get
  initUserThread clock glue.kernel.rootThread entry
  let worker ← kernel (KernelState.spawn .worker [8, 4])
  initUserThread clock worker workerEntry
  modifyStatics fun statics => { statics with processBTid := some worker }
  schedDispatch clock glue.kernel.rootThread

end GlueM

namespace UserMode

variable {μ : Type}

/-- What the start keeps until the root task takes the processor. -/
structure Poised (kernel : KernelState) : Prop where
  resting : Resting kernel.Halted kernel
  unpending : Unpending kernel
  rootRecorded : (kernel.tcb kernel.rootThread).isSome

namespace Poised

theorem of_boots {machine : Machine μ} (boots : machine.Boots) : Poised machine.kernel := by
  have rests := Resting.of_boots boots
  obtain ⟨kernel, fromBoot, same⟩ := boots
  have booted := fromBoot.booted
  have poised : Resting (fun _ => False) kernel → Poised kernel := by
    intro resting
    refine ⟨resting.of_waits fun tid halted => ?_, booted.unpending, booted.rootRecorded⟩
    obtain ⟨threadState, there, stopped⟩ := halted
    obtain ⟨tcb, present, rfl⟩ := Option.map_eq_some_iff.1 there
    exact stopped (booted.runnable tid tcb present)
  rcases same with same | ⟨base, len, installed⟩
  · rw [same] at rests ⊢
    exact poised rests
  · rw [installed] at rests ⊢
    have still := poised ⟨rests.asleep, rests.waiters, rests.admitted⟩
    exact ⟨⟨still.resting.asleep, still.resting.waiters, still.resting.admitted⟩,
      still.unpending, still.rootRecorded⟩

variable {before after : KernelState}

/-- New threads are halted, and the scheduler does not know them. -/
theorem spawned (poised : Poised before) (spawns : KernelState.Spawns before after) :
    Poised after := by
  have sameSched : after.sched = before.sched := by rw [spawns.frame]
  have kept := poised.resting.spawns spawns
  have oldOrNew : ∀ tid, after.Halted tid → before.Halted tid ∨ before.tcb tid = none := by
    rintro tid ⟨threadState, there, stopped⟩
    obtain ⟨tcb, present, rfl⟩ := Option.map_eq_some_iff.1 there
    rcases spawns.tcbs.cases_of_some present with old | ⟨vacant, _⟩
    · exact Or.inl ⟨tcb.state, congrArg (Option.map Tcb.state) old, stopped⟩
    · exact Or.inr vacant
  refine ⟨⟨⟨fun tid halted => ?_, kept.asleep.running, kept.asleep.threadsMatch⟩,
    fun tid halted => ?_, kept.admitted⟩, fun tid tcb there => ?_, ?_⟩
  · rcases oldOrNew tid halted with old | vacant
    · exact kept.asleep.waiting tid old
    · rw [sameSched]
      intro schedulable
      have known : (before.sched.runState tid).isSome := by
        rcases schedulable with ready | running
        · rw [ready]
          rfl
        · rw [running]
          rfl
      have recorded := poised.resting.admitted tid known
      rw [vacant] at recorded
      cases recorded
  · obtain ⟨threadState, there, _⟩ := halted
    obtain ⟨tcb, present, _⟩ := Option.map_eq_some_iff.1 there
    rw [present]
    rfl
  · rcases spawns.tcbs.cases_of_some there with old | ⟨_, _, _, rfl⟩
    · exact poised.unpending tid tcb old
    · exact ⟨rfl, rfl⟩
  · rw [spawns.rootThread]
    exact spawns.recorded poised.rootRecorded

/-- A thread that is started is halted no longer. -/
theorem started (poised : Poised before) {tid : ThreadId} (recorded : (before.tcb tid).isSome)
    (entry nowNs : Nat) :
    Poised
      { before.updateTcb tid fun tcb => { tcb with entry, state := .runnable } with
        sched := (before.sched.setAdmitted tid .interactive maxPriority none).setReady
          tid nowNs } := by
  have others : Resting (fun other => before.Halted other ∧ other ≠ tid) before :=
    poised.resting.of_waits fun _ halted => halted.1
  have rests := others.started (fun halted => halted.2 rfl) recorded entry maxPriority nowNs
  refine ⟨rests.of_waits fun other halted => ?_, fun other tcb there => ?_, ?_⟩
  · obtain ⟨threadState, there, stopped⟩ := halted
    obtain ⟨tcb, present, rfl⟩ := Option.map_eq_some_iff.1 there
    change (before.updateTcb tid _).tcb other = some tcb at present
    rw [KernelState.tcb_updateTcb] at present
    split at present
    · obtain ⟨_, _, rfl⟩ := Option.map_eq_some_iff.1 present
      exact absurd rfl stopped
    · next ne =>
      exact ⟨⟨tcb.state, congrArg (Option.map Tcb.state) present, stopped⟩, ne⟩
  · change (before.updateTcb tid _).tcb other = some tcb at there
    rw [KernelState.tcb_updateTcb] at there
    split at there
    · obtain ⟨old, present, rfl⟩ := Option.map_eq_some_iff.1 there
      exact poised.unpending other old present
    · exact poised.unpending other tcb there
  · have sameRoot : (before.updateTcb tid fun tcb =>
        { tcb with entry, state := .runnable }).rootThread = before.rootThread := by
      rw [KernelState.updateTcb_frame]
    change ((before.updateTcb tid _).tcb (before.updateTcb tid _).rootThread).isSome
    rw [sameRoot]
    exact KernelState.recorded_updateTcb tid _ poised.rootRecorded

end Poised

/-- The thread may run. -/
structure Started (tid : ThreadId) (kernel : KernelState) : Prop where
  known : (kernel.sched.runState tid).isSome
  runnable : kernel.threadState tid = some .runnable

namespace Started

variable {tid other : ThreadId} {before after : KernelState}

theorem spawned (started : Started tid before) (spawns : KernelState.Spawns before after) :
    Started tid after := by
  have sameSched : after.sched = before.sched := by rw [spawns.frame]
  obtain ⟨tcb, present, runs⟩ := Option.map_eq_some_iff.1 started.runnable
  refine ⟨by rw [sameSched]; exact started.known, ?_⟩
  have stays : after.tcb tid = some tcb := spawns.tcbs.get?_of_some present
  unfold KernelState.threadState
  rw [stays, ← runs]
  rfl

/-- Starting a thread does not disturb another one. -/
theorem startedNext (holds : tid = other ∨ Started tid before)
    (recorded : (before.tcb other).isSome) (entry nowNs : Nat) :
    Started tid
      { before.updateTcb other fun tcb => { tcb with entry, state := .runnable } with
        sched := (before.sched.setAdmitted other .interactive maxPriority none).setReady
          other nowNs } := by
  obtain ⟨tcb, present⟩ := Option.isSome_iff_exists.1 recorded
  have inside : other < maxThreads := Slab.lt_of_get? present
  constructor
  · change ((Scheduler.setReady _ _ _).runState tid).isSome
    rw [Scheduler.isSome_runState_setReady, Scheduler.runState_setAdmitted inside]
    split
    · rfl
    · next ne => exact (holds.resolve_left ne).known
  · change ((before.updateTcb other _).tcb tid).map Tcb.state = some .runnable
    rw [KernelState.tcb_updateTcb]
    split
    · next same =>
      rw [same, present]
      rfl
    · next ne => exact (holds.resolve_left ne).runnable

end Started

/-- The root task gets the processor. -/
theorem orderly_dispatched {kernel : KernelState} {glue : Glue μ} {tid : ThreadId}
    (poised : Poised kernel) (started : Started tid kernel) {nowNs : Nat}
    (dispatched : glue.kernel = { kernel with sched := kernel.sched.setRunning tid nowNs }) :
    Orderly { glue, current := tid, ended := none } := by
  have admitted := started.known
  rw [Scheduler.runState, Option.isSome_map] at admitted
  refine ⟨?_, ?_, ?_⟩
  · rw [dispatched]
    exact Scheduler.running_setRunning_of_admitted admitted nowNs
  · obtain ⟨runState, known⟩ := Option.isSome_iff_exists.1 started.known
    rw [dispatched]
    change (kernel.sched.setRunning tid nowNs).runState tid = some .running
    rw [Scheduler.runState_setRunning, if_pos rfl, known]
    rfl
  · rw [dispatched]
    refine poised.resting.setRunning (fun halted => ?_) nowNs
    obtain ⟨threadState, there, stopped⟩ := halted
    rw [started.runnable] at there
    exact stopped (Option.some.inj there).symm

variable (arch : Architecture) {clock : Nat → Nat} (hal : HalInterface μ)

/-- User mode begins in an orderly way. -/
theorem initial_of_setup {start later : Glue μ} (boots : start.machine.Boots)
    {entry workerEntry : Nat}
    (ran : GlueM.setupTwoProcess clock entry workerEntry start = .ok () later) :
    (system arch clock hal).Initial
      { glue := later, current := start.kernel.rootThread, ended := none } := by
  obtain ⟨_, first, carved, ran⟩ := Exec.bind_eq_ok.1 ran
  obtain ⟨carvedKernel, _⟩ := GlueM.kernel_eq_ok carved
  have carves := KernelState.carveAll_spawns [1] start.kernel first.kernel
    (by rw [carvedKernel]; rfl)
  have firstPoised := (Poised.of_boots boots).spawned carves
  rw [← carves.rootThread]
  rw [Exec.get_bind_run] at ran
  obtain ⟨_, second, begun, ran⟩ := Exec.bind_eq_ok.1 ran
  have secondKernel := (Outcome.ok.inj
    ((GlueM.initUserThread_run clock first.kernel.rootThread entry first).symm.trans begun)).2
  have secondPoised : Poised second.kernel := by
    rw [← secondKernel]
    exact firstPoised.started firstPoised.rootRecorded entry (clock first.readings)
  have secondStarted : Started first.kernel.rootThread second.kernel := by
    rw [← secondKernel]
    exact .startedNext (Or.inl rfl) firstPoised.rootRecorded entry (clock first.readings)
  obtain ⟨worker, third, spawned, ran⟩ := Exec.bind_eq_ok.1 ran
  obtain ⟨spawnedKernel, _⟩ := GlueM.kernel_eq_ok spawned
  have spawns := KernelState.spawn_spawns .worker [8, 4] second.kernel third.kernel
    (by rw [spawnedKernel]; rfl)
  have recorded := (KernelState.spawn_fresh spawnedKernel).2
  obtain ⟨_, fourth, begun, ran⟩ := Exec.bind_eq_ok.1 ran
  have fourthKernel := (Outcome.ok.inj
    ((GlueM.initUserThread_run clock worker workerEntry third).symm.trans begun)).2
  have fourthPoised : Poised fourth.kernel := by
    rw [← fourthKernel]
    exact (secondPoised.spawned spawns).started recorded workerEntry (clock third.readings)
  have fourthStarted : Started first.kernel.rootThread fourth.kernel := by
    rw [← fourthKernel]
    exact .startedNext (Or.inr (secondStarted.spawned spawns)) recorded workerEntry
      (clock third.readings)
  rw [Exec.bind_of_ok (GlueM.modifyStatics_run _ fourth)] at ran
  have dispatched : ∀ glue : Glue μ, GlueM.schedDispatch clock first.kernel.rootThread glue =
      .ok () _ := fun glue =>
    (Exec.bind_of_ok (GlueM.nowNs_run clock glue) _).trans
      (GlueM.kernel_run (KernelState.quietly_run (Scheduler.dispatch_state ..)))
  rw [dispatched] at ran
  obtain ⟨_, rfl⟩ := Outcome.ok.inj ran
  exact ⟨orderly_dispatched fourthPoised fourthStarted rfl, fourthPoised.rootRecorded,
    fourthPoised.unpending, rfl⟩

/-! ## A machine -/

/-- The small machine when it enters user mode. -/
def launchedGlue : Glue Unit :=
  (GlueM.setupTwoProcess GlueM.sampleClock 4096 8192
    (GlueM.untrapped sampleMachine)).state?.getD (GlueM.untrapped sampleMachine)

def launched : UserMode Unit := { glue := launchedGlue, current := 0, ended := none }

theorem launched_initial :
    (system .riscv64 GlueM.sampleClock sampleHal).Initial launched := by
  have succeeded : (GlueM.setupTwoProcess GlueM.sampleClock 4096 8192
      (GlueM.untrapped sampleMachine)).value? = some () := by
    decide +kernel
  obtain ⟨later, ran⟩ := Outcome.eq_ok_of_value? succeeded
  have same : launchedGlue = later := by
    unfold launchedGlue
    rw [ran]
    rfl
  have root : (GlueM.untrapped sampleMachine).kernel.rootThread = 0 := by
    decide +kernel
  have initial := initial_of_setup .riscv64 sampleHal sampleMachine_boots ran
  rw [root, ← same] at initial
  exact initial

end UserMode

end Simurgh
