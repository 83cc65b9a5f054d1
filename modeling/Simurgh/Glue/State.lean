import Simurgh.Core.Threads
import Simurgh.Lib.Wp

/-!
# The glue

Between the trap vectors and the kernel there is code that serves system calls, ticks
and faults of user threads.  It keeps global variables of its own.  What a handler did
on behalf of whom is traced, so that one can speak about it.
-/

namespace Simurgh

/-- Processes that the root task calls through an endpoint. -/
inductive Service where
  | fs
  | compositor
  | mm
  | drv
  | netstack
  deriving DecidableEq, Repr

/-- The global variables. -/
structure Statics where
  processBTid : Option ThreadId
  ipcServerTid : Option ThreadId
  serviceTid : Service → Option ThreadId
  serviceEp : Service → CapId
  drvNetEp : CapId
  ipcEp : CapId
  watchedDriverTid : Option ThreadId
  dmTid : Option ThreadId
  pendingCrash : Option Nat
  ticks : Nat
  lastMappedFrame : Nat
  lastMappedFrameCap : CapId
  subsysEntry : Nat
  aLoopEntry : Nat

namespace Statics

/-- As linked, with the entry points of the user image. -/
def initial (subsysEntry aLoopEntry : Nat) : Statics where
  processBTid := none
  ipcServerTid := none
  serviceTid := fun _ => none
  serviceEp := fun service => if service = .netstack then u32Max else 0
  drvNetEp := 0
  ipcEp := 0
  watchedDriverTid := none
  dmTid := none
  pendingCrash := none
  ticks := 0
  lastMappedFrame := 0
  lastMappedFrameCap := 0
  subsysEntry := subsysEntry
  aLoopEntry := aLoopEntry

def setServiceTid (service : Service) (tid : ThreadId) (statics : Statics) : Statics :=
  { statics with
    serviceTid := fun other =>
      if other = service then some tid else statics.serviceTid other }

def setServiceEp (service : Service) (cap : CapId) (statics : Statics) : Statics :=
  { statics with
    serviceEp := fun other => if other = service then cap else statics.serviceEp other }

end Statics

/-! ## The trace of a handler -/

/-- What the kernel stores for a blocked thread to find in its registers. -/
inductive Delivery where
  | request (sender : ThreadId) (label : Nat)
  | reply (label : Nat)
  deriving DecidableEq, Repr

/-- The message that a syscall stores, and the thread it is stored for. -/
def KernelState.delivers (state : KernelState) (caller : ThreadId) (op : SyscallOp) :
    Option (ThreadId × Delivery) :=
  match op with
  | .reply toThread msg =>
      if caller ≠ toThread ∧ state.isBlockedOnReply toThread then
        some (toThread, .reply msg.label)
      else none
  | .send _ msg | .call _ msg =>
      match state.partner caller op with
      | none => none
      | some receiver =>
          (state.tcb receiver).map fun _ => (receiver, .request caller msg.label)
  | _ => none

/-- What a handler has done: for whom it has called the kernel, what was stored for
whom, and whose registers were set up. -/
structure Trace where
  callers : List ThreadId
  deliveries : List (ThreadId × Delivery)
  started : List ThreadId
  deriving DecidableEq, Repr

namespace Trace

def empty : Trace := { callers := [], deliveries := [], started := [] }

/-- `caller` is about to call the kernel. -/
def calls (caller : ThreadId) (delivery : Option (ThreadId × Delivery)) (trace : Trace) :
    Trace :=
  { trace with
    callers := trace.callers ++ [caller]
    deliveries := trace.deliveries ++ delivery.toList }

def starts (tid : ThreadId) (trace : Trace) : Trace :=
  { trace with started := trace.started ++ [tid] }

end Trace

/-- The machine with the variables of the glue. -/
structure Glue (μ : Type) where
  machine : Machine μ
  statics : Statics
  /-- How often the clock was read. -/
  readings : Nat
  trace : Trace

/-- How a function ends that does not return a value. -/
inductive Stop where
  /-- It returns `None`. -/
  | refused
  | panicked
  /-- It waits for an interrupt. -/
  | waits
  deriving DecidableEq, Repr

namespace Glue

variable {μ : Type}

def kernel (glue : Glue μ) : KernelState := glue.machine.kernel

/-- Another kernel below the same glue. -/
def withKernel (glue : Glue μ) (kernel : KernelState) : Glue μ :=
  { glue with machine := { glue.machine with kernel } }

@[simp]
theorem kernel_withKernel (glue : Glue μ) (kernel : KernelState) :
    (glue.withKernel kernel).kernel = kernel := rfl

@[simp]
theorem trace_withKernel (glue : Glue μ) (kernel : KernelState) :
    (glue.withKernel kernel).trace = glue.trace := rfl

@[simp]
theorem statics_withKernel (glue : Glue μ) (kernel : KernelState) :
    (glue.withKernel kernel).statics = glue.statics := rfl

end Glue

/-! ## Programs -/

/-- Code of the glue.  Its `?` operators refuse. -/
abbrev GlueM (μ : Type) := Exec (Glue μ) Stop

namespace GlueM

variable {μ : Type} {ε α : Type}

/-- Run the kernel and look at its result. -/
def result (program : Exec (Machine μ) ε α) : GlueM μ (Except ε α) := fun glue =>
  match program glue.machine with
  | .ok value machine => .ok (.ok value) { glue with machine }
  | .err error machine => .ok (.error error) { glue with machine }
  | .panic => .err .panicked glue

/-- Run the kernel, and refuse if it fails. -/
def kernel (program : Exec KernelState ε α) : GlueM μ α := do
  let ended ← result (Machine.onKernel program)
  match ended with
  | .ok value => return value
  | .error _ => Exec.throw .refused

/-- `program.ok()`, for a function that returns `None` when it refuses. -/
def optional (program : GlueM μ α) : GlueM μ (Option α) := fun glue =>
  match program glue with
  | .ok value later => .ok (some value) later
  | .err .refused later => .ok none later
  | .err stop later => .err stop later
  | .panic => .panic

def modifyStatics (update : Statics → Statics) : GlueM μ Unit :=
  Exec.modify fun glue => { glue with statics := update glue.statics }

section Clock

variable (clock : Nat → Nat)

/-- `hal.now_ns()`. -/
def nowNs : GlueM μ Nat := do
  let glue ← Exec.get
  Exec.modify fun glue => { glue with readings := glue.readings + 1 }
  return clock glue.readings

/-- `let _ = k.sched.dispatch(tid, hal.now_ns());`. -/
def schedDispatch (tid : ThreadId) : GlueM μ Unit := do
  let now ← nowNs clock
  kernel (KernelState.quietly (Scheduler.dispatch tid now))

/-- `let _ = k.sched.note_ready(tid, hal.now_ns());`. -/
def schedNoteReady (tid : ThreadId) : GlueM μ Unit := do
  let now ← nowNs clock
  kernel (KernelState.quietly (Scheduler.noteReady tid now))

/-- `k.init_user_thread(tid, entry, .., hal);`. -/
def initUserThread (tid : ThreadId) (entry : Nat) : GlueM μ Unit := do
  let now ← nowNs clock
  kernel (KernelState.initUserThread tid entry now)
  Exec.modify fun glue => { glue with trace := glue.trace.starts tid }

variable (hal : HalInterface μ)

/-- `k.dispatch(caller, hal.now_ns(), op, hal)`. -/
def dispatch (caller : ThreadId) (op : SyscallOp) :
    GlueM μ (Except SyscallError SyscallReturn) := do
  let now ← nowNs clock
  Exec.modify fun glue =>
    { glue with trace := glue.trace.calls caller (glue.kernel.delivers caller op) }
  result (Machine.dispatch hal caller now op)

end Clock

/-- `k.user_ctx_switch_ptrs(outgoing, incoming)?`. -/
def switchPtrs (outgoing incoming : ThreadId) : GlueM μ (ThreadId × ThreadId) := do
  let glue ← Exec.get
  Exec.okOr .refused (glue.kernel.userCtxSwitchPtrs outgoing incoming)

/-- `k.tcb_mut(tid).and_then(|t| Some((t.pending_from.take()?, t.pending_msg.take()?)))`. -/
def takeRequest (tid : ThreadId) : GlueM μ (Option (ThreadId × SmallMessage)) := do
  let glue ← Exec.get
  match glue.kernel.tcb tid with
  | none => return none
  | some tcb =>
      match tcb.pendingFrom with
      | none => return none
      | some sender => do
          kernel (ε := Stop) <| Exec.modify <| KernelState.updateTcb tid fun tcb =>
            { tcb with pendingFrom := none, pendingMsg := none }
          return tcb.pendingMsg.map fun msg => (sender, msg)

/-- `k.tcb_mut(tid).and_then(|t| t.pending_msg.take())`. -/
def takeReply (tid : ThreadId) : GlueM μ (Option SmallMessage) := do
  let glue ← Exec.get
  match glue.kernel.tcb tid with
  | none => return none
  | some tcb => do
      kernel (ε := Stop) <| Exec.modify <| KernelState.updateTcb tid fun tcb =>
        { tcb with pendingMsg := none }
      return tcb.pendingMsg

end GlueM

end Simurgh
