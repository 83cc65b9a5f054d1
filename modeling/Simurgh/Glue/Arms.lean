import Simurgh.Glue.Handlers
import Simurgh.Hal.Context

/-!
# The arms of the system call handler

Each architecture has its handler with one arm for each opcode.  The arms of the three
handlers agree, but for a few that only RISC-V has.
-/

namespace Simurgh

/-- The processes that have an opcode to start them. -/
inductive Demo where
  | fs
  | drvBlk
  | drvNet
  | netstack
  | compositor
  | mm
  deriving DecidableEq, Repr

/-- The arms that do more than return a value. -/
inductive Arm where
  | yield
  | preemptStart
  | dmReport
  | dmWaitCrash
  | dmPollCrash
  | dmRespawnDriver
  | ipcDemoStart
  | ipcEndpointCap
  | ipcCall
  | ipcRecv
  | ipcReply
  | start (demo : Demo)
  | call (service : Service)
  | irqWait
  | retypeEndpoint
  | mapPage
  | mapAlias
  | report
  deriving DecidableEq, Repr

/-- The arm of an opcode, with the numbers of `sys`. -/
def Arm.of (arch : Architecture) : Nat → Arm
  | 1 => if arch = .riscv64 then .retypeEndpoint else .report
  | 2 => if arch = .riscv64 then .mapPage else .report
  | 4 => if arch = .riscv64 then .mapAlias else .report
  | 20 => .yield
  | 23 => .preemptStart
  | 30 => .dmReport
  | 31 => .dmWaitCrash
  | 32 => .dmPollCrash
  | 33 => .dmRespawnDriver
  | 40 => .ipcDemoStart
  | 41 => .ipcEndpointCap
  | 42 => .ipcCall
  | 43 => .ipcRecv
  | 44 => .ipcReply
  | 45 => .start .fs
  -- `FS_OPEN`, `FS_STAT`, `FS_CLOSE`, `FS_WRITE` and `FS_READ`
  | 46 => .call .fs
  | 48 => .call .fs
  | 50 => .call .fs
  | 52 => .call .fs
  | 54 => .call .fs
  | 56 => .start .drvBlk
  -- `DRV_BLK_PROBE`, `DRV_BLK_WRITE` and `DRV_BLK_READ`
  | 57 => .call .drv
  | 59 => .call .drv
  | 61 => .call .drv
  | 63 => .irqWait
  | 64 => .start .drvNet
  | 65 => .start .netstack
  | 67 => .start .compositor
  -- `COMPOSITOR_CREATE_SURFACE`, `COMPOSITOR_COMMIT_BUFFER` and
  -- `COMPOSITOR_DESTROY_SURFACE`
  | 68 => .call .compositor
  | 70 => .call .compositor
  | 72 => .call .compositor
  | 74 => .start .mm
  -- `MM_REGISTER`, `MM_UNREGISTER`, `MM_QUERY_VICTIM` and `MM_QUERY_TOTAL_RESIDENT`
  | 75 => .call .mm
  | 77 => .call .mm
  | 79 => .call .mm
  | 81 => .call .mm
  -- `NET_BYPASS_REQUEST` and `NET_STANDARD_SEND_REQUEST`
  | 83 => .call .netstack
  | 88 => .call .netstack
  | _ => .report

namespace GlueM

variable {μ : Type} (clock : Nat → Nat) (hal : HalInterface μ)

/-- `kstate().sched.running().unwrap_or(kstate().root_thread)`. -/
def runningOrRoot : GlueM μ ThreadId := do
  let glue ← Exec.get
  return glue.kernel.sched.running.getD glue.kernel.rootThread

/-- `kstate().root_thread`. -/
def rootThread : GlueM μ ThreadId := do
  let glue ← Exec.get
  return glue.kernel.rootThread

/-- `Some((save, into)) => SwitchTo { .. }, None => Resume(ret)`. -/
def orResume (ret : Nat) (program : GlueM μ (ThreadId × ThreadId)) :
    GlueM μ TrapOutcome := do
  let switch ← optional program
  return TrapOutcome.ofSwitch ret switch

/-- `Some(value) => Resume(value), None => Resume(ret)`. -/
def orReturn (ret : Nat) (program : GlueM μ Nat) : GlueM μ TrapOutcome := do
  let value ← optional program
  return .resume (value.getD ret)

def startDemo (caller : ThreadId) (choices : Choices) :
    Demo → GlueM μ (CapId × ThreadId × ThreadId)
  | .fs => fsDemoStart clock hal caller choices
  | .drvBlk => spawnVirtioBlkDriver clock hal caller choices
  | .drvNet => spawnVirtioNetDriver clock hal caller choices
  | .netstack => spawnNetstackService clock hal caller choices
  | .compositor => compositorDemoStart clock hal caller choices
  | .mm => mmDemoStart clock hal caller choices

/-- Remember the endpoint of a process that was started. -/
def rememberEp (endpoint : CapId) : Demo → GlueM μ Unit
  | .fs => modifyStatics (Statics.setServiceEp .fs endpoint)
  | .drvBlk => modifyStatics (Statics.setServiceEp .drv endpoint)
  | .drvNet => modifyStatics fun statics => { statics with drvNetEp := endpoint }
  | .netstack => pure ()
  | .compositor => modifyStatics (Statics.setServiceEp .compositor endpoint)
  | .mm => modifyStatics (Statics.setServiceEp .mm endpoint)

/-! ## The arms -/

def dmReport (a0 : Nat) : GlueM μ TrapOutcome := do
  if a0 = 3 then p2DmSupervisionDone
  return .resume 0

def dmRespawnDriver (choices : Choices) : GlueM μ TrapOutcome := do
  let driver ← spawnFaultyDriver clock choices
  match driver with
  | none => return .resume 0
  | some tid => orResume 0 (p2DmHandoffToDriver clock tid)

def preemptStart (choices : Choices) : GlueM μ TrapOutcome := do
  spawnDeviceManager clock choices
  let _ ← spawnFaultyDriver clock choices
  orResume 0 (p2PreemptStart clock choices)

def ipcDemoStart (caller : ThreadId) (choices : Choices) : GlueM μ TrapOutcome := do
  let started ← optional (p2IpcDemoStart clock hal caller choices.entry)
  match started with
  | none => return .resume 0
  | some (endpoint, save, into) => do
      modifyStatics fun statics => { statics with ipcEp := endpoint }
      return .switchTo save into

def ipcEndpointCap : GlueM μ TrapOutcome := do
  let glue ← Exec.get
  return .resume glue.statics.ipcEp

def ipcCall (caller : ThreadId) (a0 a1 : Nat) : GlueM μ TrapOutcome := do
  let switch ← optional (p2IpcCall clock hal caller (asU32 a0) a1)
  match switch with
  | none => return .resume 0
  | some sw => return .switchToFast sw.save sw.into sw.poke

def ipcRecv (caller : ThreadId) (a0 : Nat) : GlueM μ TrapOutcome := do
  let outcome ← optional (p2IpcRecv clock hal caller (asU32 a0))
  match outcome with
  | none => return .resume2 0 0
  | some (.immediate sender label) => return .resume2 sender label
  | some (.switch sw) => return .switchToFast sw.save sw.into none

def ipcReply (caller : ThreadId) (a0 a1 : Nat) : GlueM μ TrapOutcome := do
  let switch ← optional (p2IpcReply clock hal caller (asU32 a0) a1)
  match switch with
  | none => return .resume 0
  | some sw => return .switchToFast sw.save sw.into sw.poke

def demoStart (demo : Demo) (caller : ThreadId) (choices : Choices) :
    GlueM μ TrapOutcome := do
  let started ← optional (startDemo clock hal caller choices demo)
  match started with
  | none => return .resume usizeMax
  | some (endpoint, save, into) => do
      rememberEp endpoint demo
      return .switchTo save into

/-- The arms of the services do not look at what is to be poked. -/
def serviceCall (service : Service) (caller : ThreadId) : GlueM μ TrapOutcome := do
  let glue ← Exec.get
  let switch ← optional
    (callOf clock hal service caller (glue.statics.serviceEp service))
  match switch with
  | none => return .resume 0
  | some sw => return .switchToFast sw.save sw.into none

def irqWait (caller : ThreadId) (a0 : Nat) (choices : Choices) : GlueM μ TrapOutcome := do
  let bits ← drvIrqWait clock hal caller (asU32 a0) choices.wakes
  return .resume bits

/-- An arm, with the registers of the call. -/
def serve (a0 a1 : Nat) (choices : Choices) : Arm → GlueM μ TrapOutcome
  | .yield => orResume 0 (p2Yield clock)
  | .preemptStart => preemptStart clock choices
  | .dmReport => dmReport a0
  | .dmWaitCrash => orResume 0 (p2DmWaitCrash clock)
  | .dmPollCrash => orReturn 0 p2PollCrash
  | .dmRespawnDriver => dmRespawnDriver clock choices
  | .ipcDemoStart => do
      let caller ← runningOrRoot
      ipcDemoStart clock hal caller choices
  | .ipcEndpointCap => ipcEndpointCap
  | .ipcCall => do
      let caller ← runningOrRoot
      ipcCall clock hal caller a0 a1
  | .ipcRecv => do
      let caller ← runningOrRoot
      ipcRecv clock hal caller a0
  | .ipcReply => do
      let caller ← runningOrRoot
      ipcReply clock hal caller a0 a1
  | .start demo => do
      let caller ← rootThread
      demoStart clock hal demo caller choices
  | .call service => do
      let caller ← rootThread
      serviceCall clock hal service caller
  | .irqWait => do
      let caller ← runningOrRoot
      irqWait clock hal caller a0 choices
  | .retypeEndpoint => do
      let caller ← rootThread
      orReturn usizeMax (newObject clock hal caller .endpoint)
  | .mapPage => orReturn usizeMax (mapPage clock hal a0)
  | .mapAlias => orReturn usizeMax (mapAlias clock hal a0)
  | .report => return .resume choices.value

end GlueM

/-! ## Traps -/

/-- What interrupts a user thread. -/
inductive Trap where
  | syscall (opcode a0 a1 : Nat) (choices : Choices)
  | tick
  | fault (cause : Nat)
  | device (line : Nat)

namespace GlueM

variable {μ : Type} (arch : Architecture) (clock : Nat → Nat) (hal : HalInterface μ)

/-- The handler that the trap vector calls. -/
def handle : Trap → GlueM μ TrapOutcome
  | .syscall opcode a0 a1 choices => serve clock hal a0 a1 choices (Arm.of arch opcode)
  | .tick => orResume 0 (p2Tick clock)
  | .fault cause => do
      let heir ← optional (p2Fault clock cause)
      match heir with
      | some into => return .terminate into
      -- Nobody is left, and the thread that has died goes on.
      | none => return .resume 0
  | .device line => do
      irqTrampoline clock line
      return .resume 0

end GlueM

end Simurgh
