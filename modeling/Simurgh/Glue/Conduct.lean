import Simurgh.Glue.Calm
import Simurgh.Glue.Moves

/-!
# Moves of the handlers

For every handler, the thread for which it calls the kernel, and whether it only makes
new things, stores no message, or may do more.
-/

namespace Simurgh

namespace KernelState

/-- The notification that the interrupts of a line signal. -/
def notificationOf (line : Nat) (state : KernelState) :
    Option (NotificationId × KNotification) :=
  (state.irqBindings.find? fun binding => binding.1 == line).bind fun binding =>
    (state.notifications.get? binding.2.2).map fun notif => (binding.2.2, notif)

/-- The kernel after an interrupt: the waiters are woken. -/
def interrupted (line nowNs : Nat) (state : KernelState) : KernelState :=
  match state.notificationOf line with
  | none => state
  | some (nid, notif) =>
      { state.putNotification nid
          { signalWord := notif.signalWord ||| 1, waiters := [] } with
        sched := state.sched.setAllReady nowNs notif.waiters }

theorem deviceInterrupt_run (line nowNs : Nat) (state : KernelState) :
    deviceInterrupt line nowNs state = .ok () (state.interrupted line nowNs) := by
  unfold deviceInterrupt interrupted notificationOf
  rw [Exec.get_bind_run]
  cases bound : state.irqBindings.find? fun binding => binding.1 == line with
  | none => rfl
  | some binding =>
      obtain ⟨other, handler, nid⟩ := binding
      simp only [Option.bind_some]
      cases present : state.notifications.get? nid with
      | none => rfl
      | some notif =>
          simp only [Option.map_some]
          have signalled : onNotification nid (Notification.signal 1) state = _ :=
            onObject_of_ok present (Notification.signal_run 1 notif)
          rw [Exec.bind_of_ok signalled, wakeAll_run]
          rfl

theorem interrupted_rescheduled (line nowNs : Nat) (state : KernelState) :
    ∃ notifications sched,
      state.interrupted line nowNs = { state with notifications, sched } := by
  unfold interrupted
  cases state.notificationOf line with
  | none => exact ⟨_, _, rfl⟩
  | some found => exact ⟨_, _, rfl⟩

end KernelState

namespace GlueM

variable {μ : Type} {α : Type} {caller : ThreadId} {manner : Manner}

/-! ## Small programs -/

theorem conducts_modifyStatics (update : Statics → Statics) :
    Conducts caller manner (modifyStatics update : GlueM μ Unit) :=
  .modify fun _ => (Glue.Move.remembered _).moves

/-- The kernel reschedules and does nothing else. -/
theorem conducts_rescheduled {ε : Type} {program : Exec KernelState ε α}
    (free : manner ≠ .prepares)
    (ends : ∀ state final, (program state).state? = some final →
      ∃ notifications sched, final = { state with notifications, sched }) :
    Conducts (μ := μ) caller manner (kernel program) := by
  refine .kernel fun glue final ended => ?_
  obtain ⟨notifications, sched, rfl⟩ := ends glue.kernel final ended
  exact (Glue.Move.rescheduled free notifications sched).moves

/-- The same, for a program that is known exactly. -/
theorem conducts_of_run {ε : Type} {program : Exec KernelState ε α} (free : manner ≠ .prepares)
    {value : KernelState → α} {sched : KernelState → KScheduler}
    (ran : ∀ state, program state = .ok (value state) { state with sched := sched state }) :
    Conducts (μ := μ) caller manner (kernel program) := by
  refine conducts_rescheduled free fun state final ended => ?_
  rw [ran] at ended
  exact ⟨state.notifications, sched state, (Option.some.inj ended).symm⟩

theorem conducts_switchPtrs (outgoing incoming : ThreadId) :
    Conducts caller manner (switchPtrs outgoing incoming : GlueM μ _) :=
  .getBind fun _ => .okOr _ _

theorem conducts_retire (free : manner ≠ .prepares) (tid : ThreadId) :
    Conducts caller manner (retire tid : GlueM μ Unit) := by
  refine .kernel fun glue final ended => ?_
  obtain rfl := Option.some.inj ended
  have marked : Glue.Move caller manner glue _ := .exited free tid
  have removed : ∀ state : Glue μ, Glue.Move caller manner state (state.withKernel
      { state.kernel with sched := state.kernel.sched.remove tid }) :=
    fun state => .rescheduled free state.kernel.notifications _
  exact marked.moves.trans (removed _).moves

theorem conducts_retireIpcServer (free : manner ≠ .prepares) :
    Conducts caller manner (retireIpcServer : GlueM μ Unit) := by
  refine .getBind fun glue => ?_
  split
  · exact .pure ()
  · exact (conducts_retire free _).bind fun _ => conducts_modifyStatics _

theorem conducts_retireProcessB (free : manner ≠ .prepares) :
    Conducts caller manner (retireProcessB : GlueM μ Unit) := by
  refine .getBind fun glue => ?_
  split
  · exact .pure ()
  · exact (conducts_retire free _).bind fun _ => conducts_modifyStatics _

theorem conducts_parkFs (free : manner ≠ .prepares) :
    Conducts caller manner (parkFs : GlueM μ Unit) := by
  refine .getBind fun glue => ?_
  split
  · exact .pure ()
  · exact conducts_of_run free fun state =>
      KernelState.quietly_run (Scheduler.noteBlocked_state _ state.sched)

theorem conducts_grantInto (thread : ThreadId) (cap : CapId) (tid : ThreadId) :
    Conducts caller manner (grantInto thread cap tid : GlueM μ Unit) := by
  refine .getBind fun glue => (Conducts.okOr _ _).bind fun source =>
    (Conducts.okOr _ _).bind fun target => ?_
  refine Conducts.bind (.kernel fun glue final ended => ?_) fun _ => .pure ()
  rcases KernelState.grantCapInto_state ended with rfl | ⟨tables, _, rfl⟩
  · exact .refl glue
  · exact (Glue.Move.granted tables).moves

theorem conducts_spawns {ε : Type} {program : Exec KernelState ε α}
    (spawns : program.Steps KernelState.Spawns) :
    Conducts (μ := μ) caller manner (kernel program) :=
  .kernel fun glue final ended => (Glue.Move.spawned (spawns glue.kernel final ended)).moves

section Clock

variable (clock : Nat → Nat)

theorem conducts_nowNs : Conducts caller manner (nowNs clock : GlueM μ Nat) := by
  have counted : Conducts caller manner (Exec.modify fun glue : Glue μ =>
      { glue with readings := glue.readings + 1 }) := .modify fun _ => Glue.Move.read.moves
  exact .getBind fun glue => counted.bind fun _ => .pure _

theorem conducts_schedDispatch (free : manner ≠ .prepares) (tid : ThreadId) :
    Conducts caller manner (schedDispatch clock tid : GlueM μ Unit) :=
  (conducts_nowNs clock).bind fun now => conducts_of_run free fun state =>
    KernelState.quietly_run (Scheduler.dispatch_state tid now state.sched)

theorem conducts_schedNoteReady (free : manner ≠ .prepares) (tid : ThreadId) :
    Conducts caller manner (schedNoteReady clock tid : GlueM μ Unit) :=
  (conducts_nowNs clock).bind fun now => conducts_of_run free fun state =>
    KernelState.quietly_run (Scheduler.noteReady_state tid now state.sched)

/-! ## New threads -/

/-- A thread is made, and what follows starts it. -/
theorem conducts_spawnThen (kind : SpawnKind) (sizes : List Nat)
    {rest : ThreadId → GlueM μ α}
    (goesOn : ∀ (glue : Glue μ) kernel tid, glue.kernel.Spawns kernel →
      glue.kernel.tcb tid = none → (kernel.tcb tid).isSome →
        ∃ later, (rest tid (glue.withKernel kernel)).state? = some later ∧
          Glue.Moves caller manner glue later) :
    Conducts caller manner (kernel (KernelState.spawn kind sizes) >>= rest) := by
  intro glue
  have spawns := KernelState.spawn_spawns kind sizes glue.kernel
  unfold ConductsAt
  cases ran : KernelState.spawn kind sizes glue.kernel with
  | ok tid later =>
      obtain ⟨vacant, recorded⟩ := KernelState.spawn_fresh ran
      rw [Exec.bind_of_ok (kernel_run ran)]
      exact goesOn glue later tid (spawns later (by rw [ran]; rfl)) vacant recorded
  | err error later =>
      rw [Exec.bind_of_err (kernel_err ran)]
      exact ⟨_, rfl, (Glue.Move.spawned (spawns later (by rw [ran]; rfl))).moves⟩
  | panic =>
      rw [Exec.bind_of_err (kernel_panic ran)]
      exact ⟨glue, rfl, .refl glue⟩

/-- A thread is made and started. -/
theorem conducts_spawn (kind : SpawnKind) (sizes : List Nat) (entry : Nat)
    {rest : ThreadId → GlueM μ α} (goesOn : ∀ tid, Conducts caller manner (rest tid)) :
    Conducts caller manner (do
      let tid ← kernel (KernelState.spawn kind sizes)
      initUserThread clock tid entry
      rest tid) := by
  refine conducts_spawnThen kind sizes fun glue kernel tid spawns vacant recorded => ?_
  have begins : Glue.Move caller manner glue _ :=
    @Glue.Move.began _ _ _ _ kernel tid entry (clock glue.readings) spawns vacant recorded
  obtain ⟨final, ended, moved⟩ := goesOn tid _
  refine ⟨final, ?_, begins.moves.trans moved⟩
  rw [Exec.bind_of_ok (initUserThread_run clock tid entry _)]
  exact ended

/-- It is noted before it is started. -/
theorem conducts_spawnNoted (kind : SpawnKind) (sizes : List Nat) (entry : Nat)
    (note : ThreadId → Statics → Statics) {rest : ThreadId → GlueM μ α}
    (goesOn : ∀ tid, Conducts caller manner (rest tid)) :
    Conducts caller manner (do
      let tid ← kernel (KernelState.spawn kind sizes)
      modifyStatics (note tid)
      initUserThread clock tid entry
      rest tid) := by
  refine conducts_spawnThen kind sizes fun glue kernel tid spawns vacant recorded => ?_
  have noted : Glue.Move caller manner glue _ := .remembered (note tid glue.statics)
  have begins : Glue.Move caller manner { glue with statics := note tid glue.statics } _ :=
    @Glue.Move.began _ _ _ _ kernel tid entry (clock glue.readings) spawns vacant recorded
  obtain ⟨final, ended, moved⟩ := goesOn tid _
  refine ⟨final, ?_, (noted.moves.trans begins.moves).trans moved⟩
  rw [Exec.bind_of_ok (modifyStatics_run (note tid) _),
    Exec.bind_of_ok (initUserThread_run clock tid entry _)]
  exact ended

theorem conducts_spawnProcess (sizes : List Nat) (entry : Nat) (mapped : Bool) :
    Conducts caller manner (spawnProcess clock sizes entry mapped : GlueM μ ThreadId) := by
  unfold spawnProcess
  split
  · exact conducts_spawn clock .process sizes entry fun tid => .pure tid
  · have carved := (KernelState.carve_spawns 3).bind .trans fun _ =>
      KernelState.carveAll_spawns sizes
    exact (conducts_spawns carved).bind fun _ => .throw _

theorem conducts_spawnProcessFromElf (choices : Choices) (index : Nat) :
    Conducts caller manner (spawnProcessFromElf clock choices index : GlueM μ ThreadId) :=
  (Conducts.okOr _ _).bind fun _ => conducts_spawnProcess clock _ _ _

theorem conducts_spawnDeviceManager (choices : Choices) :
    Conducts caller manner (spawnDeviceManager clock choices : GlueM μ Unit) := by
  unfold spawnDeviceManager
  split
  · refine (conducts_spawnProcessFromElf clock choices 0).optional.bind fun spawned => ?_
    cases spawned with
    | none => exact .pure ()
    | some tid => exact conducts_modifyStatics _
  · exact .pure ()

theorem conducts_spawnFaultyDriver (choices : Choices) :
    Conducts caller manner (spawnFaultyDriver clock choices : GlueM μ _) := by
  refine (conducts_spawnProcess clock _ _ _).optional.bind fun spawned => ?_
  cases spawned with
  | none => exact .pure none
  | some tid => exact (conducts_modifyStatics _).bind fun _ => .pure _

/-! ## Scheduling -/

theorem conducts_ptrsOf (step : PreemptStep) :
    Conducts caller manner (ptrsOf step : GlueM μ _) := by
  cases step with
  | switch outgoing incoming => exact conducts_switchPtrs outgoing incoming
  | «continue» => exact .throw _
  | idle => exact .throw _

/-- A scheduling decision that is known exactly. -/
theorem conducts_decision {ε : Type} {program : Nat → Exec KernelState ε PreemptStep}
    (free : manner ≠ .prepares)
    (ran : ∀ now state, ∃ step sched, program now state = .ok step { state with sched }) :
    Conducts (μ := μ) caller manner (do
      let now ← nowNs clock
      let step ← kernel (program now)
      ptrsOf step) :=
  (conducts_nowNs clock).bind fun now => by
    refine (conducts_rescheduled free fun state final ended => ?_).bind fun step =>
      conducts_ptrsOf step
    obtain ⟨step, sched, same⟩ := ran now state
    rw [same] at ended
    exact ⟨state.notifications, sched, (Option.some.inj ended).symm⟩

theorem conducts_p2Yield (free : manner ≠ .prepares) :
    Conducts caller manner (p2Yield clock : GlueM μ _) := by
  refine conducts_decision clock free fun now state => ?_
  obtain ⟨step, ran, _⟩ := KernelState.cooperativeYield_run now state
  exact ⟨step, _, ran⟩

theorem conducts_p2Tick (free : manner ≠ .prepares) :
    Conducts caller manner (p2Tick clock : GlueM μ _) := by
  refine .getBind fun glue => ?_
  split
  · exact .throw _
  · refine (conducts_modifyStatics _).bind fun _ => ?_
    split
    · exact .throw _
    · exact conducts_decision clock free fun now state =>
        ⟨_, _, KernelState.preemptTick_run now state⟩

theorem conducts_p2DmWaitCrash (free : manner ≠ .prepares) :
    Conducts caller manner (p2DmWaitCrash clock : GlueM μ _) := by
  refine .getBind fun glue => ?_
  split
  · exact .throw _
  · split
    · exact .throw _
    · next tid _ =>
      refine conducts_decision clock free fun now state => ?_
      obtain ⟨step, ran, _⟩ := KernelState.blockThread_run tid now state
      exact ⟨step, _, ran⟩

theorem conducts_p2DmHandoffToDriver (free : manner ≠ .prepares) (driver : ThreadId) :
    Conducts caller manner (p2DmHandoffToDriver clock driver : GlueM μ _) := by
  refine .getBind fun glue => ?_
  split
  · exact .throw _
  · next caller _ =>
    exact conducts_decision clock free fun now state =>
      ⟨_, _, KernelState.yieldToThread_run caller driver now state⟩

theorem conducts_p2PollCrash : Conducts caller manner (p2PollCrash : GlueM μ Nat) :=
  .getBind fun _ => (conducts_modifyStatics _).bind fun _ => .pure _

/-! ## Faults -/

theorem conducts_successor (outcome : TerminationOutcome) :
    Conducts caller manner (successor outcome : GlueM μ ThreadId) := by
  cases outcome with
  | switched incoming =>
      exact .getBind fun glue => (Conducts.okOr _ _).bind fun _ => .pure incoming
  | idle => exact .throw _

/-- A thread dies, and the scheduler goes on. -/
theorem conducts_exited {ε : Type} {program : Exec KernelState ε α} (free : manner ≠ .prepares)
    (tid : ThreadId) (ends : ∀ state final, (program state).state? = some final →
      ∃ nowNs sched, final = { state.exited tid nowNs with sched }) :
    Conducts (μ := μ) caller manner (kernel program) := by
  refine .kernel fun glue final ended => ?_
  obtain ⟨nowNs, sched, rfl⟩ := ends glue.kernel final ended
  have marked : Glue.Move caller manner glue _ := .exited free tid
  have rescheduled : ∀ state : Glue μ, Glue.Move caller manner state (state.withKernel
      { state.kernel with sched }) :=
    fun state => .rescheduled free state.kernel.notifications sched
  exact marked.moves.trans (rescheduled _).moves

theorem conducts_terminateThread (free : manner ≠ .prepares) (tid : ThreadId) :
    Conducts caller manner (terminateThread clock tid : GlueM μ ThreadId) := by
  refine (conducts_nowNs clock).bind fun now => ?_
  refine (conducts_exited free tid fun state final ended => ?_).bind conducts_successor
  rw [KernelState.terminateThread_run] at ended
  exact ⟨now, _, (Option.some.inj ended).symm⟩

theorem conducts_p2Fault (free : manner ≠ .prepares) (cause : Nat) :
    Conducts caller manner (p2Fault clock cause : GlueM μ ThreadId) := by
  refine .getBind fun glue => ?_
  split
  · exact .throw _
  · next tid _ =>
    split
    · refine (conducts_modifyStatics _).bind fun _ => ?_
      split
      · next dm _ =>
        refine (conducts_nowNs clock).bind fun now => ?_
        refine (conducts_of_run free (KernelState.wakeBlocked_run dm now)).bind fun _ => ?_
        refine (conducts_exited free tid fun state final ended => ?_).bind fun _ =>
          conducts_successor _
        rw [KernelState.terminateThreadAndHandoff_run] at ended
        exact ⟨now, _, (Option.some.inj ended).symm⟩
      · exact conducts_terminateThread clock free tid
    · exact conducts_terminateThread clock free tid

/-- A device interrupt signals a notification and wakes its waiters. -/
theorem conducts_irqTrampoline (free : manner ≠ .prepares) (line : Nat) :
    Conducts caller manner (irqTrampoline clock line : GlueM μ Unit) := by
  refine (conducts_nowNs clock).bind fun now =>
    conducts_rescheduled free fun state final ended => ?_
  rw [KernelState.deviceInterrupt_run] at ended
  obtain rfl := Option.some.inj ended
  exact KernelState.interrupted_rescheduled line now state

/-! ## Calls of the kernel -/

variable (hal : HalInterface μ)

theorem conducts_dispatch {op : SyscallOp} (serves : manner.serves op = true) :
    Conducts caller manner (dispatch clock hal caller op) := by
  intro glue
  have ends := @Machine.dispatch_ends μ hal caller (clock glue.readings) op glue.machine
  unfold ConductsAt
  change ∃ later, (result (Machine.dispatch hal caller (clock glue.readings) op)
    { glue with
      readings := glue.readings + 1
      trace := glue.trace.calls caller (glue.kernel.delivers caller op) }).state? =
    some later ∧ _
  unfold result
  cases ran : Machine.dispatch hal caller (clock glue.readings) op glue.machine with
  | ok value machine =>
      rw [ran] at ends
      exact ⟨_, rfl, (Glue.Move.called serves (Or.inr ⟨_, _, ends⟩)).moves⟩
  | err error machine =>
      rw [ran] at ends
      exact ⟨_, rfl, (Glue.Move.called serves (Or.inr ⟨_, _, ends⟩)).moves⟩
  | panic => exact ⟨_, rfl, (Glue.Move.called serves (Or.inl rfl)).moves⟩

/-! ## Setting up processes -/

theorem conducts_newObject (target : KernelObjectType) (serves :
    manner.serves (.retype 0 target 1) = true) :
    Conducts caller manner (newObject clock hal caller target) := by
  refine (conducts_dispatch clock hal serves).bind fun made => ?_
  split
  · exact .pure _
  · exact .throw _

theorem conducts_setupStep (choices : Choices) (index : Nat) (setup : Setup)
    (step : SetupStep) :
    Conducts caller .prepares (step.run clock hal caller choices index setup) := by
  cases step with
  | retype target =>
      refine (conducts_newObject clock hal target rfl).bind fun cap => ?_
      split
      · exact .pure _
      · exact .pure _
  | spawn => exact (conducts_spawnProcessFromElf clock choices index).bind fun _ => .pure _
  | announce service => exact (conducts_modifyStatics _).bind fun _ => .pure _
  | grant => exact (conducts_grantInto caller _ _).bind fun _ => .pure _
  | grantDriver =>
      exact .getBind fun glue => (conducts_grantInto caller _ _).bind fun _ => .pure _
  | publishEndpoint service => exact (conducts_modifyStatics _).bind fun _ => .pure _
  | carve pages =>
      exact (conducts_spawns (KernelState.carve_spawns pages)).bind fun _ => .pure _
  | mapRange =>
      change Conducts _ _ (if choices.mapped index then _ else _)
      split
      · exact .pure _
      · exact .throw _
  | windows =>
      refine (conducts_spawns (KernelState.carveAll_spawns choices.windows)).bind fun _ => ?_
      split
      · exact .pure _
      · exact .throw _
  | irqBind mmio =>
      refine (conducts_dispatch clock hal rfl).bind fun bound => ?_
      split
      · exact .pure _
      · exact .throw _

theorem conducts_runSetup (choices : Choices) (index : Nat) (steps : List SetupStep)
    (setup : Setup) :
    Conducts caller .prepares (runSetup clock hal caller choices index steps setup) := by
  induction steps generalizing index setup with
  | nil => exact .pure setup
  | cons step rest ih =>
      exact (conducts_setupStep clock hal choices index setup step).bind fun later =>
        ih (index + 1) later

theorem conducts_startProcess (choices : Choices) (steps : List SetupStep) :
    Conducts caller .quiet (startProcess clock hal caller choices steps) := by
  have free : Manner.quiet ≠ .prepares := by decide
  refine (conducts_runSetup clock hal choices 0 steps _).quiet.bind fun setup => ?_
  refine (conducts_schedNoteReady clock free caller).bind fun _ => ?_
  refine (conducts_schedDispatch clock free setup.tid).bind fun _ => ?_
  exact (conducts_switchPtrs caller setup.tid).bind fun _ => .pure _

theorem conducts_startDemo (choices : Choices) (demo : Demo) :
    Conducts caller .quiet (startDemo clock hal caller choices demo) := by
  have free : Manner.quiet ≠ .prepares := by decide
  cases demo with
  | fs => exact conducts_startProcess clock hal choices _
  | drvBlk =>
      exact .getBind fun glue => (Conducts.okOr _ _).bind fun device =>
        conducts_startProcess clock hal choices _
  | drvNet =>
      exact .getBind fun glue => (Conducts.okOr _ _).bind fun device =>
        conducts_startProcess clock hal choices _
  | netstack =>
      refine (conducts_retireIpcServer free).bind fun _ => ?_
      refine (conducts_parkFs free).bind fun _ => ?_
      refine (conducts_retireProcessB free).bind fun _ => ?_
      exact .getBind fun glue => (Conducts.okOr _ _).bind fun _ =>
        conducts_startProcess clock hal choices _
  | compositor => exact conducts_startProcess clock hal choices _
  | mm => exact conducts_startProcess clock hal choices _

theorem conducts_p2PreemptStart (choices : Choices) :
    Conducts caller .quiet (p2PreemptStart clock choices : GlueM μ _) := by
  have free : Manner.quiet ≠ .prepares := by decide
  have takesOver : ∀ root aLoopEntry, Conducts caller .quiet (do
      let fresh ← kernel (KernelState.spawn .thread [])
      initUserThread clock fresh aLoopEntry
      retire root
      retireIpcServer
      parkFs
      schedDispatch clock fresh
      modifyStatics fun statics => { statics with ticks := 0 }
      switchPtrs root fresh : GlueM μ (ThreadId × ThreadId)) := by
    intro root aLoopEntry
    refine conducts_spawn clock .thread [] aLoopEntry fun fresh => ?_
    refine (conducts_retire free root).bind fun _ => ?_
    refine (conducts_retireIpcServer free).bind fun _ => ?_
    refine (conducts_parkFs free).bind fun _ => ?_
    refine (conducts_schedDispatch clock free fresh).bind fun _ => ?_
    exact (conducts_modifyStatics _).bind fun _ => conducts_switchPtrs root fresh
  unfold p2PreemptStart
  refine .getBind fun glue => ?_
  have workers : Conducts caller .quiet
      (optional (spawnProcess clock [8, 4] glue.statics.subsysEntry (choices.mapped 2)) :
        GlueM μ _) :=
    (conducts_spawnProcess clock _ _ _).optional
  split
  · split
    · exact workers.bind fun _ => (Conducts.throw _).bind fun _ => takesOver _ _
    · exact (Conducts.throw _).bind fun _ => takesOver _ _
  · split
    · exact workers.bind fun _ => takesOver _ _
    · exact takesOver _ _

/-! ## Messages -/

theorem conducts_takeRequest (tid : ThreadId) :
    Conducts caller .anyhow (takeRequest tid : GlueM μ _) := by
  refine .getBind fun glue => ?_
  split
  · exact .pure none
  · split
    · exact .pure none
    · refine Conducts.bind (.kernel fun glue final ended => ?_) fun _ => .pure _
      obtain rfl := Option.some.inj ended
      exact (Glue.Move.took rfl tid _).moves

theorem conducts_takeReply (tid : ThreadId) :
    Conducts caller .anyhow (takeReply tid : GlueM μ _) := by
  refine .getBind fun glue => ?_
  split
  · exact .pure none
  · refine Conducts.bind (.kernel fun glue final ended => ?_) fun _ => .pure _
    obtain rfl := Option.some.inj ended
    exact (Glue.Move.took rfl tid _).moves

/-- A call of the kernel that is followed by the switch to a thread. -/
theorem conducts_handOver {op : SyscallOp} {target : ThreadId → ThreadId}
    {rest : ThreadId → ThreadId × ThreadId → GlueM μ α}
    (goesOn : ∀ next switch, Conducts caller .anyhow (rest next switch)) :
    Conducts caller .anyhow (do
      let result ← dispatch clock hal caller op
      match result with
      | .ok (.reschedule (some next)) => do
          schedDispatch clock (target next)
          let switch ← switchPtrs caller (target next)
          rest next switch
      | _ => Exec.throw .refused) := by
  have free : Manner.anyhow ≠ .prepares := by decide
  refine (conducts_dispatch clock hal rfl).bind fun result => ?_
  split
  · next next =>
    refine (conducts_schedDispatch clock free (target next)).bind fun _ => ?_
    exact (conducts_switchPtrs caller (target next)).bind fun switch => goesOn next switch
  · exact .throw _

theorem conducts_p2IpcCall (endpoint : CapId) (label : Nat) :
    Conducts caller .anyhow (p2IpcCall clock hal caller endpoint label) :=
  conducts_handOver clock hal fun next _ =>
    (conducts_takeRequest next).bind fun _ => .pure _

theorem conducts_p2IpcReply (toThread : ThreadId) (label : Nat) :
    Conducts caller .anyhow (p2IpcReply clock hal caller toThread label) :=
  conducts_handOver clock hal fun next _ =>
    (conducts_takeReply next).bind fun _ => .pure _

theorem conducts_p2IpcRecv (endpoint : CapId) :
    Conducts caller .quiet (p2IpcRecv clock hal caller endpoint) := by
  have free : Manner.quiet ≠ .prepares := by decide
  refine (conducts_dispatch clock hal rfl).bind fun result => ?_
  split
  · exact .pure _
  · refine .getBind fun glue => ?_
    refine (conducts_schedDispatch clock free _).bind fun _ => ?_
    exact (conducts_switchPtrs _ _).bind fun _ => .pure _
  · exact .throw _

theorem conducts_p2IpcDemoStart (entry : Nat) :
    Conducts caller .quiet (p2IpcDemoStart clock hal caller entry) := by
  have free : Manner.quiet ≠ .prepares := by decide
  refine (conducts_newObject clock hal .endpoint rfl).bind fun endpoint => ?_
  have goesOn : ∀ server, Conducts caller .quiet (do
      schedNoteReady clock caller
      schedDispatch clock server
      let switch ← switchPtrs caller server
      return (endpoint, switch.1, switch.2) : GlueM μ (CapId × ThreadId × ThreadId)) := by
    intro server
    refine (conducts_schedNoteReady clock free caller).bind fun _ => ?_
    refine (conducts_schedDispatch clock free server).bind fun _ => ?_
    exact (conducts_switchPtrs caller server).bind fun _ => .pure _
  exact conducts_spawnNoted clock .thread [] entry
    (fun server statics => { statics with ipcServerTid := some server }) goesOn

theorem conducts_serviceIpcCall (service : Service) (endpoint : CapId) :
    Conducts caller .anyhow (serviceIpcCall clock hal service caller endpoint) := by
  refine .getBind fun glue => (Conducts.okOr _ _).bind fun tid => ?_
  refine conducts_handOver clock hal fun next switch => ?_
  obtain ⟨save, into⟩ := switch
  simp only
  split
  · exact (conducts_takeRequest tid).bind fun _ => .pure _
  · exact .pure _

theorem conducts_callOf (service : Service) (endpoint : CapId) :
    Conducts caller .anyhow (callOf clock hal service caller endpoint) := by
  cases service with
  | netstack =>
      change Conducts _ _ (if endpoint = u32Max then _ else _)
      split
      · exact .throw _
      · exact conducts_serviceIpcCall clock hal .netstack endpoint
  | fs => exact conducts_serviceIpcCall clock hal .fs endpoint
  | compositor => exact conducts_serviceIpcCall clock hal .compositor endpoint
  | mm => exact conducts_serviceIpcCall clock hal .mm endpoint
  | drv => exact conducts_serviceIpcCall clock hal .drv endpoint

/-! ## Interrupts -/

theorem conducts_drvIrqWaitStep (notification : CapId) :
    Conducts caller .quiet (drvIrqWaitStep clock hal caller notification) := by
  have free : Manner.quiet ≠ .prepares := by decide
  refine (conducts_dispatch clock hal rfl).bind fun result => ?_
  split
  · exact (conducts_schedDispatch clock free caller).bind fun _ => .pure _
  · exact .pure _
  · exact .pure _

theorem conducts_drvIrqWait (notification : CapId) (wakes : List (Option Nat)) :
    Conducts caller .quiet (drvIrqWait clock hal caller notification wakes) := by
  have free : Manner.quiet ≠ .prepares := by decide
  induction wakes with
  | nil =>
      refine (conducts_drvIrqWaitStep clock hal notification).bind fun outcome => ?_
      cases outcome with
      | ready bits => exact .pure bits
      | blocked => exact .throw _
      | error => exact .pure 0
  | cons wake rest ih =>
      refine (conducts_drvIrqWaitStep clock hal notification).bind fun outcome => ?_
      cases outcome with
      | ready bits => exact .pure bits
      | error => exact .pure 0
      | blocked =>
          cases wake with
          | none => exact ih
          | some line =>
              exact (conducts_irqTrampoline clock free line).bind fun _ => ih

/-! ## Memory of the root task -/

theorem conducts_allocRootFrame {glue : Glue μ} (isRoot : glue.kernel.rootThread = caller) :
    ConductsAt caller .prepares (allocRootFrame clock hal) glue := by
  unfold ConductsAt allocRootFrame
  rw [Exec.get_bind_run, isRoot]
  refine (conducts_newObject clock hal .untyped rfl).bind (fun cap => ?_) glue
  exact .getBind fun later => (Conducts.okOr _ _).bind fun _ =>
    (Conducts.okOr _ _).bind fun _ => (Conducts.okOr _ _).bind fun _ => .pure _

theorem conducts_mapRoot {glue : Glue μ} (isRoot : glue.kernel.rootThread = caller)
    (frame : CapId) (vaddr : Nat) :
    ConductsAt caller .prepares (mapRoot clock hal frame vaddr) glue := by
  unfold ConductsAt mapRoot
  rw [Exec.get_bind_run, isRoot]
  refine Conducts.bind (conducts_dispatch clock hal rfl) (fun result => ?_) glue
  split
  · exact .pure _
  · exact .throw _

theorem conducts_mapPage {glue : Glue μ} (isRoot : glue.kernel.rootThread = caller)
    (vaddr : Nat) : ConductsAt caller .prepares (mapPage clock hal vaddr) glue := by
  refine (conducts_allocRootFrame clock hal isRoot).bind fun frame later _ moves => ?_
  have still : later.kernel.rootThread = caller := moves.rootThread.trans isRoot
  refine (conducts_mapRoot clock hal still _ vaddr).bind fun _ final _ _ => ?_
  exact ((conducts_modifyStatics _).bind fun _ => .pure _) final

theorem conducts_mapAlias {glue : Glue μ} (isRoot : glue.kernel.rootThread = caller)
    (vaddr : Nat) : ConductsAt caller .prepares (mapAlias clock hal vaddr) glue := by
  unfold ConductsAt mapAlias
  rw [Exec.get_bind_run]
  split
  · exact Conducts.throw _ glue
  · exact (conducts_mapRoot clock hal isRoot _ vaddr).bind fun _ final _ _ =>
      Conducts.pure _ final

/-! ## Arms -/

theorem conducts_orResume {ret : Nat} {program : GlueM μ (ThreadId × ThreadId)}
    (conducts : Conducts caller manner program) :
    Conducts caller manner (orResume ret program) :=
  conducts.optional.bind fun _ => .pure _

theorem conducts_dmReport (a0 : Nat) : Conducts caller manner (dmReport a0 : GlueM μ _) := by
  unfold dmReport
  split
  · exact (conducts_modifyStatics _).bind fun _ => .pure _
  · exact .pure _

theorem conducts_dmRespawnDriver (free : manner ≠ .prepares) (choices : Choices) :
    Conducts caller manner (dmRespawnDriver clock choices : GlueM μ _) := by
  refine (conducts_spawnFaultyDriver clock choices).bind fun driver => ?_
  cases driver with
  | none => exact .pure _
  | some tid => exact conducts_orResume (conducts_p2DmHandoffToDriver clock free tid)

theorem conducts_preemptStart (choices : Choices) :
    Conducts caller .quiet (preemptStart clock choices : GlueM μ _) := by
  refine (conducts_spawnDeviceManager clock choices).bind fun _ => ?_
  refine (conducts_spawnFaultyDriver clock choices).bind fun _ => ?_
  exact conducts_orResume (conducts_p2PreemptStart clock choices)

theorem conducts_ipcDemoStart (choices : Choices) :
    Conducts caller .quiet (ipcDemoStart clock hal caller choices) := by
  refine (conducts_p2IpcDemoStart clock hal choices.entry).optional.bind fun started => ?_
  cases started with
  | none => exact .pure _
  | some found => exact (conducts_modifyStatics _).bind fun _ => .pure _

theorem conducts_ipcCall (a0 a1 : Nat) :
    Conducts caller .anyhow (ipcCall clock hal caller a0 a1) := by
  refine (conducts_p2IpcCall clock hal (asU32 a0) a1).optional.bind fun switch => ?_
  cases switch with
  | none => exact .pure _
  | some sw => exact .pure _

theorem conducts_ipcRecv (a0 : Nat) : Conducts caller .quiet (ipcRecv clock hal caller a0) := by
  refine (conducts_p2IpcRecv clock hal (asU32 a0)).optional.bind fun outcome => ?_
  split
  · exact .pure _
  · exact .pure _
  · exact .pure _

theorem conducts_ipcReply (a0 a1 : Nat) :
    Conducts caller .anyhow (ipcReply clock hal caller a0 a1) := by
  refine (conducts_p2IpcReply clock hal (asU32 a0) a1).optional.bind fun switch => ?_
  cases switch with
  | none => exact .pure _
  | some sw => exact .pure _

theorem conducts_rememberEp (endpoint : CapId) (demo : Demo) :
    Conducts caller manner (rememberEp endpoint demo : GlueM μ Unit) := by
  cases demo with
  | netstack => exact .pure ()
  | drvNet => exact conducts_modifyStatics fun statics => { statics with drvNetEp := endpoint }
  | _ => exact conducts_modifyStatics _

theorem conducts_demoStart (demo : Demo) (choices : Choices) :
    Conducts caller .quiet (demoStart clock hal demo caller choices) := by
  refine (conducts_startDemo clock hal choices demo).optional.bind fun started => ?_
  cases started with
  | none => exact .pure _
  | some found => exact (conducts_rememberEp found.1 demo).bind fun _ => .pure _

theorem conducts_serviceCall (service : Service) :
    Conducts caller .anyhow (serviceCall clock hal service caller) := by
  refine .getBind fun glue =>
    (conducts_callOf clock hal service _).optional.bind fun switch => ?_
  cases switch with
  | none => exact .pure _
  | some sw => exact .pure _

theorem conducts_irqWait (a0 : Nat) (choices : Choices) :
    Conducts caller .quiet (irqWait clock hal caller a0 choices) :=
  (conducts_drvIrqWait clock hal _ choices.wakes).bind fun _ => .pure _

end Clock

end GlueM

/-- The thread for which an arm calls the kernel. -/
def Arm.actsFor (running : Option ThreadId) (root : ThreadId) : Arm → ThreadId
  | .start _ => root
  | .call _ => root
  | .retypeEndpoint => root
  | .mapPage => root
  | .mapAlias => root
  | _ => running.getD root

namespace GlueM

variable {μ : Type} (clock : Nat → Nat) (hal : HalInterface μ)

/-- Every arm, and for whom it acts. -/
theorem conducts_serve (arm : Arm) (a0 a1 : Nat) (choices : Choices) (glue : Glue μ) :
    ConductsAt (arm.actsFor glue.kernel.sched.running glue.kernel.rootThread) .anyhow
      (serve clock hal a0 a1 choices arm) glue := by
  have free : Manner.anyhow ≠ .prepares := by decide
  cases arm with
  | yield => exact conducts_orResume (conducts_p2Yield clock free) glue
  | preemptStart => exact (conducts_preemptStart clock choices).anyhow glue
  | dmReport => exact conducts_dmReport a0 glue
  | dmWaitCrash => exact conducts_orResume (conducts_p2DmWaitCrash clock free) glue
  | dmPollCrash => exact (conducts_p2PollCrash.optional.bind fun _ => .pure _) glue
  | dmRespawnDriver => exact conducts_dmRespawnDriver clock free choices glue
  | ipcDemoStart => exact (conducts_ipcDemoStart clock hal choices).anyhow glue
  | ipcEndpointCap => exact (Conducts.getBind fun _ => .pure _) glue
  | ipcCall => exact conducts_ipcCall clock hal a0 a1 glue
  | ipcRecv => exact (conducts_ipcRecv clock hal a0).anyhow glue
  | ipcReply => exact conducts_ipcReply clock hal a0 a1 glue
  | start demo => exact (conducts_demoStart clock hal demo choices).anyhow glue
  | call service => exact conducts_serviceCall clock hal service glue
  | irqWait => exact (conducts_irqWait clock hal a0 choices).anyhow glue
  | retypeEndpoint =>
      exact ((conducts_newObject clock hal .endpoint rfl).optional.bind fun _ => .pure _) glue
  | mapPage =>
      have maps : ConductsAt glue.kernel.rootThread .prepares (mapPage clock hal a0) glue :=
        conducts_mapPage clock hal rfl a0
      have made := maps.optional
      exact made.anyhow.bind fun _ later _ _ => Conducts.pure _ later
  | mapAlias =>
      have maps : ConductsAt glue.kernel.rootThread .prepares (mapAlias clock hal a0) glue :=
        conducts_mapAlias clock hal rfl a0
      have made := maps.optional
      exact made.anyhow.bind fun _ later _ _ => Conducts.pure _ later
  | report => exact Conducts.pure _ glue

end GlueM

end Simurgh
