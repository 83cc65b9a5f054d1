import Simurgh.Core.Resting
import Simurgh.Glue.Faults

/-!
# Handlers that let threads sleep

Most handlers neither wake a thread that waits nor switch to it, and they leave the
pending crash alone.  `Calmly` says so of a program, and it goes along with its parts.
-/

namespace Simurgh

/-- The thread that a trap switches to. -/
def TrapOutcome.next : TrapOutcome → Option ThreadId
  | switchTo _ into => some into
  | switchToFast _ into _ => some into
  | terminate into => some into
  | _ => none

theorem TrapOutcome.resumed_eq (current : ThreadId) (outcome : TrapOutcome) :
    outcome.resumed current = outcome.next.getD current := by
  cases outcome with
  | resume a0 => rfl
  | resume2 a0 a1 => rfl
  | switchTo save into => rfl
  | switchToFast save into poke => rfl
  | terminate into => rfl

/-- The thread that a scheduling decision switches to. -/
def PreemptStep.next : PreemptStep → Option ThreadId
  | .switch _ incoming => some incoming
  | .continue => none
  | .idle => none

/-- A tick switches to the thread that was picked. -/
theorem KernelState.pick_of_stepTo {outgoing picked : Option ThreadId} {tid : ThreadId}
    (handed : (stepTo outgoing picked).next = some tid) : picked = some tid := by
  cases outgoing with
  | none =>
      cases picked with
      | none => cases handed
      | some incoming => cases handed
  | some outgoing =>
      cases picked with
      | none => cases handed
      | some incoming =>
          unfold stepTo at handed
          simp only at handed
          split at handed
          · exact handed
          · cases handed

/-- The threads in `waits` sleep, and `pending` is the pending crash. -/
structure Glue.Quiet {μ : Type} (waits : ThreadId → Prop) (pending : Option Nat)
    (glue : Glue μ) : Prop where
  resting : Resting waits glue.kernel
  pending : glue.statics.pendingCrash = pending

namespace GlueM

variable {μ : Type} {α β : Type} {waits : ThreadId → Prop} {pending : Option Nat}

theorem wp_optional {program : GlueM μ α} {post : Except Stop (Option α) → Glue μ → Prop}
    {glue : Glue μ} :
    Exec.wp (optional program) post glue ↔
      Exec.wp program
        (fun result later =>
          match result with
          | .ok value => post (.ok (some value)) later
          | .error .refused => post (.ok none) later
          | .error stop => post (.error stop) later)
        glue := by
  unfold Exec.wp optional
  cases program glue with
  | ok value later => rfl
  | err stop later =>
      cases stop with
      | refused => rfl
      | panicked => rfl
      | waits => rfl
  | panic => rfl

theorem wp_kernel {ε : Type} {program : Exec KernelState ε α}
    {post : Except Stop α → Glue μ → Prop} {glue : Glue μ} :
    Exec.wp (kernel program) post glue ↔
      match program glue.kernel with
      | .ok value later => post (.ok value) (glue.withKernel later)
      | .err _ later => post (.error .refused) (glue.withKernel later)
      | .panic => post (.error .panicked) glue := by
  unfold kernel
  rw [Exec.wp_bind]
  unfold result Exec.wp Machine.onKernel Exec.zoom Glue.kernel
  beta_reduce
  cases program glue.machine.kernel with
  | ok value later => rfl
  | err error later => rfl
  | panic => rfl

/-- The program keeps quiet, and it hands over to nobody who waits. -/
def Calmly (waits : ThreadId → Prop) (pending : Option Nat) (next : α → Option ThreadId)
    (program : GlueM μ α) : Prop :=
  ∀ glue, Glue.Quiet waits pending glue →
    Exec.wp program
      (fun result later => Glue.Quiet waits pending later ∧
        ∀ value tid, result = .ok value → next value = some tid → ¬ waits tid)
      glue

namespace Calmly

variable {next : α → Option ThreadId} {after : β → Option ThreadId}

theorem pure {value : α} (awake : ∀ tid, next value = some tid → ¬ waits tid) :
    Calmly (μ := μ) waits pending next (Pure.pure value) := by
  intro glue quiet
  rw [Exec.wp_pure]
  refine ⟨quiet, fun other tid same handed => ?_⟩
  obtain rfl := Except.ok.inj same
  exact awake tid handed

theorem throw (stop : Stop) : Calmly (μ := μ) waits pending next (Exec.throw stop) := by
  intro glue quiet
  rw [Exec.wp_throw]
  exact ⟨quiet, fun value tid absurdity => by cases absurdity⟩

theorem bind {first : GlueM μ β} {rest : β → GlueM μ α}
    (begins : Calmly waits pending after first)
    (goesOn : ∀ value, (∀ tid, after value = some tid → ¬ waits tid) →
      Calmly waits pending next (rest value)) :
    Calmly waits pending next (first >>= rest) := by
  intro glue quiet
  rw [Exec.wp_bind]
  refine (begins glue quiet).mono fun result later ended => ?_
  cases result with
  | ok value => exact goesOn value (fun tid => ended.2 value tid rfl) later ended.1
  | error stop => exact ⟨ended.1, fun value tid absurdity => by cases absurdity⟩

/-- What the first part returns does not matter. -/
theorem before {first : GlueM μ β} {rest : β → GlueM μ α}
    (begins : Calmly waits pending (fun _ => none) first)
    (goesOn : ∀ value, Calmly waits pending next (rest value)) :
    Calmly waits pending next (first >>= rest) :=
  begins.bind fun value _ => goesOn value

theorem optional {program : GlueM μ α} (calmly : Calmly waits pending next program) :
    Calmly waits pending (fun value => value.bind next) (optional program) := by
  intro glue quiet
  rw [wp_optional]
  refine (calmly glue quiet).mono fun result later ended => ?_
  cases result with
  | ok value =>
      refine ⟨ended.1, fun other tid same handed => ?_⟩
      obtain rfl := Except.ok.inj same
      exact ended.2 value tid rfl handed
  | error stop =>
      cases stop with
      | refused =>
          refine ⟨ended.1, fun other tid same handed => ?_⟩
          obtain rfl := Except.ok.inj same
          cases handed
      | panicked => exact ⟨ended.1, fun value tid absurdity => by cases absurdity⟩
      | waits => exact ⟨ended.1, fun value tid absurdity => by cases absurdity⟩

theorem get : Calmly (μ := μ) waits pending (fun _ => none) Exec.get := by
  intro glue quiet
  rw [Exec.wp_get]
  exact ⟨quiet, fun value tid _ absurdity => by cases absurdity⟩

/-- A program that starts with a look at the variables. -/
theorem get_bind {rest : Glue μ → GlueM μ α}
    (goesOn : ∀ glue, Calmly waits pending next (rest glue)) :
    Calmly waits pending next (Exec.get >>= rest) :=
  get.before goesOn

theorem okOr {stop : Stop} (option : Option α)
    (awake : ∀ value tid, option = some value → next value = some tid → ¬ waits tid) :
    Calmly (μ := μ) waits pending next (Exec.okOr stop option) := by
  cases option with
  | none => exact throw stop
  | some value => exact pure fun tid handed => awake value tid rfl handed

/-- An update that leaves the kernel and the pending crash alone. -/
theorem modify {update : Glue μ → Glue μ} (kernel : ∀ glue, (update glue).kernel = glue.kernel)
    (crash : ∀ glue, (update glue).statics.pendingCrash = glue.statics.pendingCrash) :
    Calmly waits pending (fun _ => none) (Exec.modify update) := by
  intro glue quiet
  rw [Exec.wp_modify]
  refine ⟨⟨?_, ?_⟩, fun value tid _ absurdity => by cases absurdity⟩
  · rw [kernel]
    exact quiet.resting
  · rw [crash]
    exact quiet.pending

/-- A program of the kernel that lets the threads sleep. -/
theorem kernel {ε : Type} {program : Exec KernelState ε α}
    (rests : Exec.Preserves (Resting waits) program)
    (hands : ∀ state value final, Resting waits state → program state = .ok value final →
      ∀ tid, next value = some tid → ¬ waits tid) :
    Calmly (μ := μ) waits pending next (GlueM.kernel program) := by
  intro glue quiet
  rw [wp_kernel]
  cases ran : program glue.kernel with
  | ok value later =>
      have resting := rests glue.kernel later quiet.resting (by rw [ran]; rfl)
      refine ⟨⟨resting, quiet.pending⟩, fun other tid same handed => ?_⟩
      obtain rfl := Except.ok.inj same
      exact hands glue.kernel value later quiet.resting ran tid handed
  | err error later =>
      have resting := rests glue.kernel later quiet.resting (by rw [ran]; rfl)
      exact ⟨⟨resting, quiet.pending⟩, fun value tid absurdity => by cases absurdity⟩
  | panic => exact ⟨quiet, fun value tid absurdity => by cases absurdity⟩

/-- A program of the kernel that is known exactly. -/
theorem kernel_of_run {ε : Type} {program : Exec KernelState ε α} {update : KernelState → KernelState}
    {value : KernelState → α} (ran : ∀ state, program state = .ok (value state) (update state))
    (rests : ∀ state, Resting waits state → Resting waits (update state) ∧
      ∀ tid, next (value state) = some tid → ¬ waits tid) :
    Calmly (μ := μ) waits pending next (GlueM.kernel program) := by
  refine kernel ?_ ?_
  · intro state final resting ended
    rw [ran] at ended
    obtain rfl := Option.some.inj ended
    exact (rests state resting).1
  · intro state result final resting ended tid handed
    rw [ran] at ended
    obtain ⟨rfl, _⟩ := Outcome.ok.inj ended
    exact (rests state resting).2 tid handed

end Calmly

/-! ## Small programs -/

theorem calmly_modifyStatics {update : Statics → Statics}
    (same : ∀ statics, (update statics).pendingCrash = statics.pendingCrash) :
    Calmly (μ := μ) waits pending (fun _ => none) (modifyStatics update) :=
  .modify (fun _ => rfl) fun glue => same glue.statics

/-- A switch to a thread that does not wait. -/
theorem calmly_switchPtrs (outgoing : ThreadId) {incoming : ThreadId} (awake : ¬ waits incoming) :
    Calmly (μ := μ) waits pending (fun pair => some pair.2) (switchPtrs outgoing incoming) := by
  refine .get_bind fun glue => .okOr _ fun pair tid found handed => ?_
  unfold KernelState.userCtxSwitchPtrs at found
  split at found
  · cases found
  · obtain ⟨_, _, found⟩ := Option.bind_eq_some_iff.1 found
    obtain ⟨_, _, found⟩ := Option.bind_eq_some_iff.1 found
    obtain rfl := Option.some.inj found
    obtain rfl := Option.some.inj handed
    exact awake

theorem calmly_orResume {ret : Nat} {program : GlueM μ (ThreadId × ThreadId)}
    (calmly : Calmly waits pending (fun pair => some pair.2) program) :
    Calmly waits pending TrapOutcome.next (orResume ret program) := by
  refine calmly.optional.bind fun switch awake => .pure fun tid handed => ?_
  cases switch with
  | none => cases handed
  | some pair => exact awake tid handed

theorem calmly_retire (tid : ThreadId) :
    Calmly (μ := μ) waits pending (fun _ => none) (retire tid) := by
  have ran : ∀ state : KernelState,
      (do
        Exec.modify (KernelState.updateTcb tid fun tcb => { tcb with state := .exited })
        Exec.modify fun state => { state with sched := state.sched.remove tid } :
          Exec KernelState Stop Unit) state =
        .ok ()
          { state.updateTcb tid (fun tcb => { tcb with state := .exited }) with
            sched := (state.updateTcb tid fun tcb =>
              { tcb with state := .exited }).sched.remove tid } := fun _ => rfl
  refine .kernel_of_run ran fun state resting => ?_
  rw [KernelState.sched_updateTcb]
  exact ⟨resting.retired tid _, fun _ absurdity => by cases absurdity⟩

theorem calmly_retireIpcServer :
    Calmly (μ := μ) waits pending (fun _ => none) retireIpcServer := by
  refine .get_bind fun glue => ?_
  split
  · exact .pure fun _ absurdity => by cases absurdity
  · exact (calmly_retire _).before fun _ => calmly_modifyStatics fun _ => rfl

theorem calmly_parkFs : Calmly (μ := μ) waits pending (fun _ => none) parkFs := by
  refine .get_bind fun glue => ?_
  split
  · exact .pure fun _ absurdity => by cases absurdity
  · next tid _ =>
    exact .kernel_of_run
      (fun state => KernelState.quietly_run (Scheduler.noteBlocked_state tid state.sched))
      fun state resting => ⟨resting.setBlocked tid, fun _ absurdity => by cases absurdity⟩

section Clock

variable (clock : Nat → Nat)

theorem calmly_nowNs : Calmly (μ := μ) waits pending (fun _ => none) (nowNs clock) := by
  refine .get_bind fun glue => ?_
  have counted : Calmly (μ := μ) waits pending (fun _ => none)
      (Exec.modify fun glue : Glue μ => { glue with readings := glue.readings + 1 }) :=
    .modify (fun _ => rfl) fun _ => rfl
  exact counted.before fun _ => .pure fun _ absurdity => by cases absurdity

theorem calmly_schedDispatch {tid : ThreadId} (awake : ¬ waits tid) :
    Calmly (μ := μ) waits pending (fun _ => none) (schedDispatch clock tid) := by
  refine (calmly_nowNs clock).before fun now => ?_
  exact .kernel_of_run
    (fun state => KernelState.quietly_run (Scheduler.dispatch_state tid now state.sched))
    fun state resting => ⟨resting.setRunning awake now, fun _ absurdity => by cases absurdity⟩

theorem initUserThread_run (tid : ThreadId) (entry : Nat) (glue : Glue μ) :
    initUserThread clock tid entry glue =
      .ok ()
        { glue with
          machine := { glue.machine with
            kernel :=
              { glue.kernel.updateTcb tid fun tcb => { tcb with entry, state := .runnable } with
                sched := (glue.kernel.sched.setAdmitted tid .interactive maxPriority
                  none).setReady tid (clock glue.readings) } }
          readings := glue.readings + 1
          trace := glue.trace.starts tid } := by
  have started : kernel (KernelState.initUserThread tid entry (clock glue.readings))
      { glue with readings := glue.readings + 1 } = .ok () _ :=
    kernel_run (KernelState.admitThread_run tid entry maxPriority (clock glue.readings) _)
  unfold initUserThread
  rw [Exec.bind_of_ok (nowNs_run clock glue), Exec.bind_of_ok started]
  rfl

/-- A new thread is started, and it does not wait. -/
theorem calmly_spawn {next : α → Option ThreadId} (kind : SpawnKind) (sizes : List Nat)
    (entry : Nat) {rest : ThreadId → GlueM μ α}
    (goesOn : ∀ tid, ¬ waits tid → Calmly waits pending next (rest tid)) :
    Calmly waits pending next (do
      let tid ← kernel (KernelState.spawn kind sizes)
      initUserThread clock tid entry
      rest tid) := by
  intro glue quiet
  rw [Exec.wp_bind, wp_kernel]
  have spawns := KernelState.spawn_spawns kind sizes glue.kernel
  cases ran : KernelState.spawn kind sizes glue.kernel with
  | err error later =>
      have resting := quiet.resting.spawns (spawns later (by rw [ran]; rfl))
      exact ⟨⟨resting, quiet.pending⟩, fun value tid absurdity => by cases absurdity⟩
  | panic => exact ⟨quiet, fun value tid absurdity => by cases absurdity⟩
  | ok tid later =>
      have resting := quiet.resting.spawns (spawns later (by rw [ran]; rfl))
      obtain ⟨vacant, recorded⟩ := KernelState.spawn_fresh ran
      have awake : ¬ waits tid := by
        intro waiting
        have present := quiet.resting.waiters tid waiting
        rw [vacant] at present
        cases present
      have started := resting.started awake recorded entry maxPriority (clock glue.readings)
      change Exec.wp (initUserThread clock tid entry >>= fun _ => rest tid) _
        (glue.withKernel later)
      rw [Exec.wp_bind, Exec.wp_of_eq_ok (initUserThread_run clock tid entry _)]
      exact goesOn tid awake _ ⟨started, quiet.pending⟩

/-! ## Processes -/

theorem calmly_carves (sizes : List Nat) :
    Calmly (μ := μ) waits pending (fun _ => none)
      (kernel do
        let _ ← KernelState.carve 3
        KernelState.carveAll sizes) := by
  refine .kernel ?_ fun state value final _ _ tid absurdity => by cases absurdity
  intro state final resting ended
  have carved := (KernelState.carve_spawns 3).bind .trans fun _ =>
    KernelState.carveAll_spawns sizes
  exact resting.spawns (carved state final ended)

theorem calmly_spawnProcess (sizes : List Nat) (entry : Nat) (mapped : Bool) :
    Calmly (μ := μ) waits pending some (spawnProcess clock sizes entry mapped) := by
  unfold spawnProcess
  split
  · refine calmly_spawn clock .process sizes entry fun tid awake => .pure fun other handed => ?_
    obtain rfl := Option.some.inj handed
    exact awake
  · exact (calmly_carves sizes).before fun _ => .throw _

theorem calmly_spawnProcessFromElf (choices : Choices) (index : Nat) :
    Calmly (μ := μ) waits pending some (spawnProcessFromElf clock choices index) := by
  have segments : Calmly (μ := μ) waits pending (fun _ => none)
      (Exec.okOr Stop.refused choices.image) :=
    .okOr _ fun _ _ _ absurdity => by cases absurdity
  exact segments.before fun _ => calmly_spawnProcess clock _ _ _

theorem calmly_spawnDeviceManager (choices : Choices) :
    Calmly (μ := μ) waits pending (fun _ => none) (spawnDeviceManager clock choices) := by
  unfold spawnDeviceManager
  split
  · refine (calmly_spawnProcessFromElf clock choices 0).optional.bind fun spawned _ => ?_
    cases spawned with
    | none => exact .pure fun _ absurdity => by cases absurdity
    | some tid => exact calmly_modifyStatics fun _ => rfl
  · exact .pure fun _ absurdity => by cases absurdity

theorem calmly_spawnFaultyDriver (choices : Choices) :
    Calmly (μ := μ) waits pending id (spawnFaultyDriver clock choices) := by
  refine (calmly_spawnProcess clock _ _ _).optional.bind fun spawned awake => ?_
  cases spawned with
  | none => exact .pure fun _ absurdity => by cases absurdity
  | some tid =>
      have noted : Calmly (μ := μ) waits pending (fun _ => none)
          (modifyStatics fun statics => { statics with watchedDriverTid := some tid }) :=
        calmly_modifyStatics fun _ => rfl
      exact noted.before fun _ => .pure fun other handed => awake other handed

theorem calmly_p2PreemptStart (choices : Choices) :
    Calmly (μ := μ) waits pending (fun pair => some pair.2) (p2PreemptStart clock choices) := by
  have takesOver : ∀ root aLoopEntry,
      Calmly (μ := μ) waits pending (fun pair => some pair.2) (do
      let fresh ← kernel (KernelState.spawn .thread [])
      initUserThread clock fresh aLoopEntry
      retire root
      retireIpcServer
      parkFs
      schedDispatch clock fresh
      modifyStatics fun statics => { statics with ticks := 0 }
      switchPtrs root fresh) := by
    intro root aLoopEntry
    refine calmly_spawn clock .thread [] aLoopEntry fun fresh awake => ?_
    refine (calmly_retire root).before fun _ => ?_
    refine calmly_retireIpcServer.before fun _ => ?_
    refine calmly_parkFs.before fun _ => ?_
    refine (calmly_schedDispatch clock awake).before fun _ => ?_
    have reset : Calmly (μ := μ) waits pending (fun _ => none)
        (modifyStatics fun statics => { statics with ticks := 0 }) :=
      calmly_modifyStatics fun _ => rfl
    exact reset.before fun _ => calmly_switchPtrs root awake
  unfold p2PreemptStart
  refine .get_bind fun glue => ?_
  have workers : Calmly (μ := μ) waits pending (fun spawned => spawned.bind some)
      (optional (spawnProcess clock [8, 4] glue.statics.subsysEntry (choices.mapped 2))) :=
    (calmly_spawnProcess clock _ _ _).optional
  split
  · have refuses : Calmly (μ := μ) waits pending (fun _ => none)
        (Exec.throw (α := PUnit) Stop.refused) := .throw _
    split
    · exact workers.bind fun _ _ => refuses.before fun _ => takesOver _ _
    · exact refuses.before fun _ => takesOver _ _
  · split
    · exact workers.bind fun _ _ => takesOver _ _
    · exact takesOver _ _

/-! ## Scheduling -/

/-- A scheduling decision for a thread that does not wait. -/
theorem calmly_ptrsOf {step : PreemptStep}
    (awake : ∀ tid, step.next = some tid → ¬ waits tid) :
    Calmly (μ := μ) waits pending (fun pair => some pair.2) (ptrsOf step) := by
  cases step with
  | switch outgoing incoming => exact calmly_switchPtrs outgoing (awake incoming rfl)
  | «continue» => exact .throw _
  | idle => exact .throw _

theorem calmly_p2Tick :
    Calmly (μ := μ) waits pending (fun pair => some pair.2) (p2Tick clock) := by
  refine .get_bind fun glue => ?_
  split
  · exact .throw _
  · have counted : Calmly (μ := μ) waits pending (fun _ => none)
        (modifyStatics fun statics => { statics with ticks := statics.ticks + 1 }) :=
      calmly_modifyStatics fun _ => rfl
    refine counted.before fun _ => ?_
    split
    · exact .throw _
    · refine (calmly_nowNs clock).before fun now => ?_
      have ticks : Calmly (μ := μ) waits pending PreemptStep.next
          (kernel (KernelState.preemptTick now)) := by
        refine .kernel_of_run (KernelState.preemptTick_run now) fun state resting => ?_
        refine ⟨resting.ticked now, fun tid handed => ?_⟩
        have picked := KernelState.pick_of_stepTo handed
        exact (resting.account now).asleep.pickNext_awake picked
      exact ticks.bind fun step awake => calmly_ptrsOf awake

/-- The device manager hands over to a driver that does not wait. -/
theorem calmly_p2DmHandoffToDriver {driver : ThreadId} (awake : ¬ waits driver) :
    Calmly (μ := μ) waits pending (fun pair => some pair.2)
      (p2DmHandoffToDriver clock driver) := by
  refine .get_bind fun glue => ?_
  split
  · exact .throw _
  · next caller _ =>
    refine (calmly_nowNs clock).before fun now => ?_
    have yields : Calmly (μ := μ) waits pending PreemptStep.next
        (kernel (KernelState.yieldToThread caller driver now)) := by
      refine .kernel_of_run (KernelState.yieldToThread_run caller driver now)
        fun state resting => ⟨resting.yieldedTo caller awake now, fun tid handed => ?_⟩
      obtain rfl := Option.some.inj handed
      exact awake
    exact yields.bind fun step awake => calmly_ptrsOf awake

/-! ## The arms of the supervision -/

theorem calmly_dmReport (a0 : Nat) :
    Calmly (μ := μ) waits pending TrapOutcome.next (dmReport a0) := by
  have done : Calmly (μ := μ) waits pending (fun _ => none) p2DmSupervisionDone :=
    calmly_modifyStatics fun _ => rfl
  unfold dmReport
  split
  · exact done.before fun _ => .pure fun _ absurdity => by cases absurdity
  · exact .pure fun _ absurdity => by cases absurdity

theorem calmly_dmRespawnDriver (choices : Choices) :
    Calmly (μ := μ) waits pending TrapOutcome.next (dmRespawnDriver clock choices) := by
  refine (calmly_spawnFaultyDriver clock choices).bind fun driver awake => ?_
  cases driver with
  | none => exact .pure fun _ absurdity => by cases absurdity
  | some tid => exact calmly_orResume (calmly_p2DmHandoffToDriver clock (awake tid rfl))

theorem calmly_preemptStart (choices : Choices) :
    Calmly (μ := μ) waits pending TrapOutcome.next (preemptStart clock choices) := by
  refine (calmly_spawnDeviceManager clock choices).before fun _ => ?_
  refine (calmly_spawnFaultyDriver clock choices).bind fun _ _ => ?_
  exact calmly_orResume (calmly_p2PreemptStart clock choices)

end Clock

end GlueM

end Simurgh
