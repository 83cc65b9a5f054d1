import Simurgh.Core.Blocking
import Simurgh.Core.Charging
import Simurgh.Glue.Arms

/-!
# Fault isolation

A user thread that takes an exception is killed, and another one should go on in its
place.  Who that is depends on the scheduler, and for the watched driver on the device
manager.
-/

namespace Simurgh

/-! ## What the handler does -/

/-- The thread that the processor is handed to when `tid` dies, whoever is ready. -/
def Statics.handOff (statics : Statics) (tid : ThreadId) : Option ThreadId :=
  if statics.watchedDriverTid = some tid then statics.dmTid else none

/-- The fault of the watched driver is noted. -/
def Statics.crashed (tid : ThreadId) (cause : Nat) (statics : Statics) : Statics :=
  if statics.watchedDriverTid = some tid then { statics with pendingCrash := some cause }
  else statics

namespace KernelState

/-- The thread that takes over when `tid` dies. -/
def heir (tid : ThreadId) (handOff : Option ThreadId) (nowNs : Nat) (state : KernelState) :
    Option ThreadId :=
  match handOff with
  | some dm => some dm
  | none => (schedWithout tid nowNs state.sched).pickNext

/-- The scheduler without `tid`, with a device manager that was woken. -/
def bereaved (tid : ThreadId) (handOff : Option ThreadId) (nowNs : Nat) (sched : KScheduler) :
    KScheduler :=
  match handOff with
  | some dm => schedWithout tid nowNs (sched.setReady dm nowNs)
  | none => schedWithout tid nowNs sched

/-- The kernel after `tid` has died. -/
def faulted (tid : ThreadId) (handOff : Option ThreadId) (nowNs : Nat) (state : KernelState) :
    KernelState :=
  { state.exited tid nowNs with
    sched := (bereaved tid handOff nowNs state.sched).runNext
      (state.heir tid handOff nowNs) nowNs }

/-- Waking the thread that takes over comes before everything else. -/
theorem exited_handedOver (tid dm : ThreadId) (nowNs : Nat) (state : KernelState) :
    { ({ state with sched := state.sched.setReady dm nowNs }).exited tid nowNs with
      sched := (schedWithout tid nowNs (state.sched.setReady dm nowNs)).setRunning dm nowNs } =
      state.faulted tid (some dm) nowNs := by
  unfold faulted exited updateTcb tcb
  cases state.tcbs.get? tid with
  | none => rfl
  | some tcb => rfl

section Heir

variable {tid next : ThreadId} {handOff : Option ThreadId} {nowNs : Nat} {state : KernelState}

end Heir

end KernelState

namespace Glue

variable {μ : Type}

/-- The state after the fault of `tid`. -/
def faulted (clock : Nat → Nat) (tid : ThreadId) (cause : Nat) (glue : Glue μ) : Glue μ :=
  { glue with
    machine := { glue.machine with
      kernel := glue.kernel.faulted tid (glue.statics.handOff tid) (clock glue.readings) }
    statics := glue.statics.crashed tid cause
    readings := glue.readings + 1 }

/-- The thread that takes over when `tid` dies now. -/
def heir (clock : Nat → Nat) (tid : ThreadId) (glue : Glue μ) : Option ThreadId :=
  glue.kernel.heir tid (glue.statics.handOff tid) (clock glue.readings)

end Glue

namespace GlueM

variable {μ : Type}

/-- The kernel runs and ends well. -/
theorem kernel_run {ε α : Type} {program : Exec KernelState ε α} {value : α}
    {later : KernelState} {glue : Glue μ} (ran : program glue.kernel = .ok value later) :
    kernel program glue = .ok value (glue.withKernel later) := by
  have zoomed : Machine.onKernel program glue.machine =
      .ok value { glue.machine with kernel := later } :=
    Exec.zoom_eq_ok.2 ⟨later, ran, rfl⟩
  have ended : result (Machine.onKernel program) glue =
      .ok (.ok value) (glue.withKernel later) := by
    unfold result
    rw [zoomed]
    rfl
  unfold kernel
  rw [Exec.bind_of_ok ended]
  rfl

/-- A program that goes on after one that is known. -/
theorem optional_bind_of_ok {α β : Type} {first : GlueM μ α} {next : α → GlueM μ β}
    {glue later : Glue μ} {value : α} (ran : first glue = .ok value later) :
    optional (first >>= next) glue = optional (next value) later := by
  unfold optional
  rw [Exec.bind_of_ok ran]

section Results

variable {α : Type} {glue later : Glue μ}

theorem optional_congr {program other : GlueM μ α} {glue : Glue μ}
    (same : program glue = other glue) : optional program glue = optional other glue := by
  unfold optional
  rw [same]

theorem optional_of_ok {program : GlueM μ α} {value : α}
    (ran : program glue = .ok value later) : optional program glue = .ok (some value) later := by
  unfold optional
  rw [ran]

theorem optional_of_refused {program : GlueM μ α}
    (failed : program glue = .err .refused later) : optional program glue = .ok none later := by
  unfold optional
  rw [failed]

theorem orResume_of_ok {ret : Nat} {program : GlueM μ (ThreadId × ThreadId)}
    {save into : ThreadId} (ran : program glue = .ok (save, into) later) :
    orResume ret program glue = .ok (.switchTo save into) later :=
  Exec.bind_of_ok (optional_of_ok ran) _

theorem orResume_of_refused {ret : Nat} {program : GlueM μ (ThreadId × ThreadId)}
    (failed : program glue = .err .refused later) :
    orResume ret program glue = .ok (.resume ret) later :=
  Exec.bind_of_ok (optional_of_refused failed) _

/-- Two threads with records can be switched. -/
theorem switchPtrs_run {outgoing incoming : ThreadId} (ne : outgoing ≠ incoming)
    (outgoingRecorded : (glue.kernel.tcb outgoing).isSome)
    (incomingRecorded : (glue.kernel.tcb incoming).isSome) :
    switchPtrs outgoing incoming glue = .ok (outgoing, incoming) glue := by
  obtain ⟨first, firstThere⟩ := Option.isSome_iff_exists.1 outgoingRecorded
  obtain ⟨second, secondThere⟩ := Option.isSome_iff_exists.1 incomingRecorded
  have firstInside : outgoing < maxThreads := Slab.lt_of_get? firstThere
  have secondInside : incoming < maxThreads := Slab.lt_of_get? secondThere
  have paired : glue.kernel.userCtxSwitchPtrs outgoing incoming = some (outgoing, incoming) := by
    have proper : ¬ (outgoing = incoming ∨ maxThreads ≤ outgoing ∨ maxThreads ≤ incoming) := by
      rw [not_or, not_or]
      exact ⟨ne, Nat.not_le.2 firstInside, Nat.not_le.2 secondInside⟩
    unfold KernelState.userCtxSwitchPtrs
    rw [if_neg proper, firstThere, secondThere]
    rfl
  unfold switchPtrs
  rw [Exec.get_bind_run, paired]
  rfl

end Results

/-- The thread that takes over needs a record. -/
theorem successor_run (heir : Option ThreadId) (glue : Glue μ) :
    optional
        (successor
          (match heir with
            | some next => .switched next
            | none => .idle))
        glue =
      .ok (heir.filter fun next => (glue.kernel.tcb next).isSome) glue := by
  cases heir with
  | none => rfl
  | some next =>
      unfold optional successor
      simp only [Exec.get_bind_run, Option.filter_some]
      cases glue.kernel.tcb next with
      | none => rfl
      | some tcb => rfl

variable (clock : Nat → Nat)

theorem nowNs_run (glue : Glue μ) :
    nowNs clock glue =
      .ok (clock glue.readings) { glue with readings := glue.readings + 1 } := rfl

variable {clock}

theorem modifyStatics_run (update : Statics → Statics) (glue : Glue μ) :
    modifyStatics update glue = .ok () { glue with statics := update glue.statics } := rfl

theorem terminateThread_run (tid : ThreadId) (glue : Glue μ) :
    optional (terminateThread clock tid) glue =
      (let later : Glue μ :=
        { glue with
          machine := { glue.machine with
            kernel := glue.kernel.faulted tid none (clock glue.readings) }
          readings := glue.readings + 1 }
      .ok ((glue.kernel.heir tid none (clock glue.readings)).filter fun next =>
        (later.kernel.tcb next).isSome) later) := by
  unfold terminateThread
  rw [optional_bind_of_ok (nowNs_run clock glue),
    optional_bind_of_ok (kernel_run (KernelState.terminateThread_run ..))]
  exact successor_run _ _

theorem p2Fault_of_unwatched {tid : ThreadId} {glue : Glue μ}
    (runs : glue.kernel.sched.running = some tid)
    (unwatched : glue.statics.watchedDriverTid ≠ some tid) (cause : Nat) :
    p2Fault clock cause glue = terminateThread clock tid glue := by
  unfold p2Fault
  rw [Exec.get_bind_run]
  simp only [runs]
  rw [if_neg unwatched]

theorem p2Fault_of_unmanaged {tid : ThreadId} {glue : Glue μ}
    (runs : glue.kernel.sched.running = some tid)
    (watched : glue.statics.watchedDriverTid = some tid)
    (unmanaged : glue.statics.dmTid = none) (cause : Nat) :
    p2Fault clock cause glue =
      (do
        modifyStatics fun statics => { statics with pendingCrash := some cause }
        terminateThread clock tid) glue := by
  unfold p2Fault
  rw [Exec.get_bind_run]
  simp only [runs]
  rw [if_pos watched]
  simp only [unmanaged]

theorem p2Fault_of_managed {tid dm : ThreadId} {glue : Glue μ}
    (runs : glue.kernel.sched.running = some tid)
    (watched : glue.statics.watchedDriverTid = some tid)
    (managed : glue.statics.dmTid = some dm) (cause : Nat) :
    p2Fault clock cause glue =
      (do
        modifyStatics fun statics => { statics with pendingCrash := some cause }
        let now ← nowNs clock
        kernel (KernelState.wakeBlocked dm now)
        kernel (KernelState.terminateThreadAndHandoff tid dm now)
        successor (.switched dm)) glue := by
  unfold p2Fault
  rw [Exec.get_bind_run]
  simp only [runs]
  rw [if_pos watched]
  simp only [managed]

/-- The handler of a fault, and the thread that takes over. -/
theorem p2Fault_run {tid : ThreadId} {glue : Glue μ} (runs : glue.kernel.sched.running = some tid)
    (cause : Nat) :
    optional (p2Fault clock cause) glue =
      .ok ((glue.heir clock tid).filter fun next =>
          ((glue.faulted clock tid cause).kernel.tcb next).isSome)
        (glue.faulted clock tid cause) := by
  by_cases watched : glue.statics.watchedDriverTid = some tid
  · have crashed : glue.statics.crashed tid cause =
        { glue.statics with pendingCrash := some cause } := if_pos watched
    have handedTo : glue.statics.handOff tid = glue.statics.dmTid := if_pos watched
    unfold Glue.heir Glue.faulted
    rw [crashed]
    cases taken : glue.statics.handOff tid with
    | none =>
        have unmanaged : glue.statics.dmTid = none := handedTo.symm.trans taken
        rw [optional_congr (p2Fault_of_unmanaged runs watched unmanaged cause),
          optional_bind_of_ok (modifyStatics_run ..), terminateThread_run]
        rfl
    | some dm =>
        have managed : glue.statics.dmTid = some dm := handedTo.symm.trans taken
        rw [optional_congr (p2Fault_of_managed runs watched managed cause),
          optional_bind_of_ok (modifyStatics_run ..), optional_bind_of_ok (nowNs_run ..),
          optional_bind_of_ok (kernel_run (KernelState.wakeBlocked_run ..)),
          optional_bind_of_ok (kernel_run (KernelState.terminateThreadAndHandoff_run ..))]
        have ended := KernelState.exited_handedOver tid dm (clock glue.readings) glue.kernel
        unfold Glue.withKernel
        simp only [Glue.kernel] at ended ⊢
        rw [ended]
        exact successor_run (some dm) _
  · rw [optional_congr (p2Fault_of_unwatched runs watched cause), terminateThread_run]
    unfold Glue.heir Glue.faulted Statics.handOff Statics.crashed
    rw [if_neg watched, if_neg watched]

end GlueM

/-! ## Isolation -/

namespace GlueM

variable {μ : Type} (arch : Architecture) (clock : Nat → Nat) (hal : HalInterface μ)

variable {arch clock hal}

/-- What the trap vector is told about a fault. -/
theorem handle_fault_run {tid : ThreadId} {glue : Glue μ}
    (runs : glue.kernel.sched.running = some tid) (cause : Nat) :
    handle arch clock hal (.fault cause) glue =
      .ok
        (match (glue.heir clock tid).filter fun next =>
            ((glue.faulted clock tid cause).kernel.tcb next).isSome with
          | some next => .terminate next
          | none => .resume 0)
        (glue.faulted clock tid cause) := by
  have handled : optional (p2Fault clock cause) glue = .ok _ _ := p2Fault_run runs cause
  revert handled
  generalize (glue.heir clock tid).filter _ = heir
  intro handled
  unfold handle
  simp only [Exec.bind_of_ok handled]
  cases heir with
  | none => rfl
  | some next => rfl

end GlueM

namespace GlueM

variable {μ : Type} {arch : Architecture} {clock : Nat → Nat} {hal : HalInterface μ}

/-- A machine before its first trap. -/
def untrapped (machine : Machine μ) : Glue μ where
  machine := machine
  statics := .initial 4096 8192
  readings := 0
  trace := .empty

def sampleClock (reading : Nat) : Nat := 5000 + reading

end GlueM

end Simurgh
