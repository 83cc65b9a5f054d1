import Simurgh.Glue.Process

/-!
# The handlers

What the handlers do for system calls, ticks, faults and device interrupts, and how they
tell the trap vector to go on.
-/

namespace Simurgh

/-- How the trap vector goes on. -/
inductive TrapOutcome where
  | resume (a0 : Nat)
  | resume2 (a0 a1 : Nat)
  | switchTo (save into : ThreadId)
  | switchToFast (save into : ThreadId) (poke : Option (Nat × Nat))
  | terminate (into : ThreadId)
  deriving DecidableEq, Repr

namespace TrapOutcome

/-- The thread that goes on, where `current` has trapped. -/
def resumed (current : ThreadId) : TrapOutcome → ThreadId
  | switchTo _ into => into
  | switchToFast _ into _ => into
  | terminate into => into
  | _ => current

/-- The thread whose buffer takes the registers. -/
def saved : TrapOutcome → Option ThreadId
  | switchTo save _ => some save
  | switchToFast save _ _ => some save
  | _ => none

/-- What is written into the saved registers of the thread that goes on. -/
def poked : TrapOutcome → Option (Nat × Nat)
  | switchToFast _ _ poke => poke
  | _ => none

/-- `Some((save, into)) => SwitchTo { save, into }, None => Resume(ret)`. -/
def ofSwitch (ret : Nat) : Option (ThreadId × ThreadId) → TrapOutcome
  | some (save, into) => .switchTo save into
  | none => .resume ret

end TrapOutcome

/-- `usize::MAX`. -/
def usizeMax : Nat := 0xffffffffffffffff

/-- `raw as u32`. -/
def asU32 (raw : Nat) : Nat := raw % 0x100000000

/-- How a hand-over to another thread goes, and what it finds in its registers. -/
structure IpcSwitch where
  save : ThreadId
  into : ThreadId
  poke : Option (Nat × Nat)
  deriving DecidableEq, Repr

inductive IpcRecvOutcome where
  | immediate (sender label : Nat)
  | switch (switch : IpcSwitch)
  deriving DecidableEq, Repr

inductive IrqWaitOutcome where
  | ready (bits : Nat)
  | blocked
  | error
  deriving DecidableEq, Repr

/-- What a device interrupt does to the kernel. -/
def KernelState.deviceInterrupt (line nowNs : Nat) :
    Exec KernelState SyscallError Unit := do
  let state ← Exec.get
  match state.irqBindings.find? fun binding => binding.1 == line with
  | none => pure ()
  | some (_, _, nid) =>
      match state.notifications.get? nid with
      | none => pure ()
      | some _ => do
          let woken ← onNotification nid (Notification.signal 1)
          wakeAll nowNs woken

namespace GlueM

variable {μ : Type} (clock : Nat → Nat)

/-! ## Scheduling -/

/-- The switch that a scheduling decision asks for. -/
def ptrsOf : PreemptStep → GlueM μ (ThreadId × ThreadId)
  | .switch outgoing incoming => switchPtrs outgoing incoming
  | .continue => Exec.throw .refused
  | .idle => Exec.throw .refused

def p2Yield : GlueM μ (ThreadId × ThreadId) := do
  let now ← nowNs clock
  let step ← kernel (KernelState.cooperativeYield now)
  ptrsOf step

/-- `P2_TICK_BUDGET`. -/
def p2TickBudget : Nat := 40

def p2Tick : GlueM μ (ThreadId × ThreadId) := do
  let glue ← Exec.get
  if glue.statics.dmTid.isSome ∧ glue.statics.dmTid = glue.kernel.sched.running then
    Exec.throw .refused
  else
    modifyStatics fun statics => { statics with ticks := statics.ticks + 1 }
    if p2TickBudget ≤ glue.statics.ticks + 1 then Exec.throw .refused
    else
      let now ← nowNs clock
      let step ← kernel (KernelState.preemptTick now)
      ptrsOf step

/-! ## Faults and their supervision -/

/-- The thread that takes over from one that has died. -/
def successor : TerminationOutcome → GlueM μ ThreadId
  | .switched incoming => do
      let glue ← Exec.get
      let _ ← Exec.okOr .refused (glue.kernel.tcb incoming)
      return incoming
  | .idle => Exec.throw .refused

def terminateThread (tid : ThreadId) : GlueM μ ThreadId := do
  let now ← nowNs clock
  let outcome ← kernel (KernelState.terminateThread tid now)
  successor outcome

def p2Fault (cause : Nat) : GlueM μ ThreadId := do
  let glue ← Exec.get
  match glue.kernel.sched.running with
  | none => Exec.throw .refused
  | some tid => do
      if glue.statics.watchedDriverTid = some tid then
        modifyStatics fun statics => { statics with pendingCrash := some cause }
        match glue.statics.dmTid with
        | some dm => do
            let now ← nowNs clock
            kernel (KernelState.wakeBlocked dm now)
            kernel (KernelState.terminateThreadAndHandoff tid dm now)
            successor (.switched dm)
        | none => terminateThread clock tid
      else terminateThread clock tid

def p2DmSupervisionDone : GlueM μ Unit :=
  modifyStatics fun statics => { statics with dmTid := none }

def p2DmWaitCrash : GlueM μ (ThreadId × ThreadId) := do
  let glue ← Exec.get
  if glue.statics.pendingCrash.isSome then Exec.throw .refused
  else
    match glue.kernel.sched.running with
    | none => Exec.throw .refused
    | some tid => do
        let now ← nowNs clock
        let step ← kernel (KernelState.blockThread tid now)
        ptrsOf step

def p2DmHandoffToDriver (driver : ThreadId) : GlueM μ (ThreadId × ThreadId) := do
  let glue ← Exec.get
  match glue.kernel.sched.running with
  | none => Exec.throw .refused
  | some caller => do
      let now ← nowNs clock
      let step ← kernel (KernelState.yieldToThread caller driver now)
      ptrsOf step

def p2PollCrash : GlueM μ Nat := do
  let glue ← Exec.get
  modifyStatics fun statics => { statics with pendingCrash := none }
  return glue.statics.pendingCrash.getD 0

/-! ## IPC -/

variable (hal : HalInterface μ)

def p2IpcCall (caller : ThreadId) (endpoint : CapId) (label : Nat) :
    GlueM μ IpcSwitch := do
  let result ← dispatch clock hal caller (.call endpoint (.new label))
  match result with
  | .ok (.reschedule (some next)) => do
      schedDispatch clock next
      let (save, into) ← switchPtrs caller next
      let request ← takeRequest next
      return { save, into, poke := request.map fun (sender, msg) => (sender, msg.label) }
  | _ => Exec.throw .refused

def p2IpcRecv (caller : ThreadId) (endpoint : CapId) : GlueM μ IpcRecvOutcome := do
  let result ← dispatch clock hal caller (.recv endpoint)
  match result with
  | .ok (.message sender msg) => return .immediate sender msg.label
  | .ok (.reschedule (some _)) => do
      -- Whom the kernel has picked does not matter: the root task goes on.
      let glue ← Exec.get
      let root := glue.kernel.rootThread
      schedDispatch clock root
      let (save, into) ← switchPtrs caller root
      return .switch { save, into, poke := none }
  | _ => Exec.throw .refused

def p2IpcReply (caller toThread : ThreadId) (label : Nat) : GlueM μ IpcSwitch := do
  let result ← dispatch clock hal caller (.reply toThread (.new label))
  match result with
  | .ok (.reschedule (some next)) => do
      schedDispatch clock next
      let (save, into) ← switchPtrs caller next
      let reply ← takeReply next
      return { save, into, poke := reply.map fun msg => (msg.label, 0) }
  | _ => Exec.throw .refused

def p2IpcDemoStart (caller : ThreadId) (entry : Nat) :
    GlueM μ (CapId × ThreadId × ThreadId) := do
  let endpoint ← newObject clock hal caller .endpoint
  let server ← kernel (KernelState.spawn .thread [])
  modifyStatics fun statics => { statics with ipcServerTid := some server }
  initUserThread clock server entry
  schedNoteReady clock caller
  schedDispatch clock server
  let (save, into) ← switchPtrs caller server
  return (endpoint, save, into)

/-! ## Calls of services -/

/-- Call a service and run it next, whomever the kernel has picked. -/
def serviceIpcCall (service : Service) (caller : ThreadId) (endpoint : CapId) :
    GlueM μ IpcSwitch := do
  let glue ← Exec.get
  let tid ← Exec.okOr .refused (glue.statics.serviceTid service)
  let result ← dispatch clock hal caller (.call endpoint (.new 0))
  match result with
  | .ok (.reschedule (some next)) => do
      schedDispatch clock tid
      let (save, into) ← switchPtrs caller tid
      if next = tid then
        let request ← takeRequest tid
        return { save, into, poke := request.map fun (sender, msg) => (sender, msg.label) }
      else
        return { save, into, poke := none }
  | _ => Exec.throw .refused

def fsIpcCall (caller : ThreadId) (endpoint : CapId) : GlueM μ IpcSwitch :=
  serviceIpcCall clock hal .fs caller endpoint

def compositorIpcCall (caller : ThreadId) (endpoint : CapId) : GlueM μ IpcSwitch :=
  serviceIpcCall clock hal .compositor caller endpoint

def mmIpcCall (caller : ThreadId) (endpoint : CapId) : GlueM μ IpcSwitch :=
  serviceIpcCall clock hal .mm caller endpoint

def drvIpcCall (caller : ThreadId) (endpoint : CapId) : GlueM μ IpcSwitch :=
  serviceIpcCall clock hal .drv caller endpoint

/-- `net_bypass_request_call` and `net_standard_send_call`. -/
def netstackBypassIpcCall (caller : ThreadId) (endpoint : CapId) : GlueM μ IpcSwitch := do
  if endpoint = u32Max then Exec.throw .refused
  else serviceIpcCall clock hal .netstack caller endpoint

/-- The call of a service, under the name that the source has for it. -/
def callOf : Service → ThreadId → CapId → GlueM μ IpcSwitch
  | .fs => fsIpcCall clock hal
  | .compositor => compositorIpcCall clock hal
  | .mm => mmIpcCall clock hal
  | .drv => drvIpcCall clock hal
  | .netstack => netstackBypassIpcCall clock hal

/-! ## Interrupts -/

/-- `virtio_blk_irq_trampoline` and `virtio_net_irq_trampoline`. -/
def irqTrampoline (line : Nat) : GlueM μ Unit := do
  let now ← nowNs clock
  kernel (KernelState.deviceInterrupt line now)

def drvIrqWaitStep (caller : ThreadId) (notification : CapId) :
    GlueM μ IrqWaitOutcome := do
  let result ← dispatch clock hal caller (.wait notification)
  match result with
  | .ok (.value bits) => do
      schedDispatch clock caller
      return .ready bits
  | .ok .blocked => return .blocked
  | _ => return .error

/-- The loop of `DRV_IRQ_WAIT`, which every interrupt wakes. -/
def drvIrqWait (caller : ThreadId) (notification : CapId) :
    List (Option Nat) → GlueM μ Nat
  | [] => do
      let outcome ← drvIrqWaitStep clock hal caller notification
      match outcome with
      | .ready bits => return bits
      | .error => return 0
      | .blocked => Exec.throw .waits
  | wake :: rest => do
      let outcome ← drvIrqWaitStep clock hal caller notification
      match outcome with
      | .ready bits => return bits
      | .error => return 0
      | .blocked => do
          match wake with
          | none => pure ()
          | some line => irqTrampoline clock line
          drvIrqWait caller notification rest

/-! ## Memory of the root task -/

def kernelData : MapPermissions where
  readable := true
  writable := true
  executable := false
  deviceUncached := false

/-- A new frame, with its capability and its address. -/
def allocRootFrame : GlueM μ (CapId × Nat) := do
  let glue ← Exec.get
  let cap ← newObject clock hal glue.kernel.rootThread .untyped
  let later ← Exec.get
  let table ← Exec.okOr .refused (later.kernel.capSpace later.kernel.rootCapSpace)
  let held ← Exec.okOr .refused (table.lookup cap)
  let region ← Exec.okOr .refused (later.kernel.untyped.get? held.object.id)
  return (cap, region.base)

/-- `Map` into the root task's own address space. -/
def mapRoot (frame : CapId) (vaddr : Nat) : GlueM μ Unit := do
  let glue ← Exec.get
  let result ← dispatch clock hal glue.kernel.rootThread
    (.map glue.kernel.rootPageTableCap frame vaddr kernelData)
  match result with
  | .ok .mapped => pure ()
  | _ => Exec.throw .refused

def mapPage (vaddr : Nat) : GlueM μ Nat := do
  let (cap, phys) ← allocRootFrame clock hal
  mapRoot clock hal cap vaddr
  modifyStatics fun statics =>
    { statics with lastMappedFrame := phys, lastMappedFrameCap := cap }
  return phys

def mapAlias (vaddr : Nat) : GlueM μ Nat := do
  let glue ← Exec.get
  if glue.statics.lastMappedFrame = 0 then Exec.throw .refused
  else
    mapRoot clock hal glue.statics.lastMappedFrameCap vaddr
    return 0

end GlueM

end Simurgh
