import Simurgh.Glue.State

/-!
# Starting processes

The root task starts the demonstration processes.  Each handler makes what the process
needs step by step and gives it the processor.  What the hardware and the images
contribute is chosen from outside.
-/

namespace Simurgh

/-- What one trap meets outside of the kernel. -/
structure Choices where
  /-- The sizes of the segments of the process image, if the image is well formed. -/
  image : Option (List Nat)
  entry : Nat
  /-- Does the mapping succeed? -/
  mapped : Nat → Bool
  /-- The frames for the windows of a PCI device. -/
  windows : List Nat
  /-- Is there memory for the plan of the root task? -/
  planned : Bool
  /-- The interrupts that end the waiting for one, with those of other lines as `none`. -/
  wakes : List (Option Nat)
  /-- What a result in shared memory says. -/
  value : Nat

namespace GlueM

variable {μ : Type} (clock : Nat → Nat)

/-! ## Threads -/

/-- `spawn_process`, of which the image has been parsed. -/
def spawnProcess (sizes : List Nat) (entry : Nat) (mapped : Bool) : GlueM μ ThreadId := do
  if mapped then
    let tid ← kernel (KernelState.spawn .process sizes)
    initUserThread clock tid entry
    return tid
  else
    kernel do
      let _ ← KernelState.carve 3
      KernelState.carveAll sizes
    Exec.throw .refused

/-- The pool for the page tables has 32 frames, the stack 16. -/
def spawnProcessFromElf (choices : Choices) (index : Nat) : GlueM μ ThreadId := do
  let segments ← Exec.okOr .refused choices.image
  spawnProcess clock (32 :: 16 :: segments) choices.entry (choices.mapped index)

/-- The thread ends without a fault. -/
def retire (tid : ThreadId) : GlueM μ Unit :=
  kernel (ε := Stop) do
    Exec.modify (KernelState.updateTcb tid fun tcb => { tcb with state := .exited })
    Exec.modify fun state => { state with sched := state.sched.remove tid }

/-- The server of the IPC demonstration has served. -/
def retireIpcServer : GlueM μ Unit := do
  let glue ← Exec.get
  match glue.statics.ipcServerTid with
  | none => pure ()
  | some tid => do
      retire tid
      modifyStatics fun statics => { statics with ipcServerTid := none }

def retireProcessB : GlueM μ Unit := do
  let glue ← Exec.get
  match glue.statics.processBTid with
  | none => pure ()
  | some tid => do
      retire tid
      modifyStatics fun statics => { statics with processBTid := none }

/-- The file system waits for its next call. -/
def parkFs : GlueM μ Unit := do
  let glue ← Exec.get
  match glue.statics.serviceTid .fs with
  | none => pure ()
  | some tid => kernel (KernelState.quietly (Scheduler.noteBlocked tid))

/-! ## Setting up a process -/

variable (hal : HalInterface μ)

/-- A new object of untyped memory, through capability 0 of the caller. -/
def newObject (caller : ThreadId) (target : KernelObjectType) : GlueM μ CapId := do
  let made ← dispatch clock hal caller (.retype 0 target 1)
  match made with
  | .ok (.newCaps cap _) => return cap
  | _ => Exec.throw .refused

/-- `grant_cap_into` the space of a thread. -/
def grantInto (caller : ThreadId) (cap : CapId) (tid : ThreadId) : GlueM μ Unit := do
  let glue ← Exec.get
  let source ← Exec.okOr .refused (glue.kernel.tcb caller)
  let target ← Exec.okOr .refused (glue.kernel.tcb tid)
  let _ ← kernel (KernelState.grantCapInto source.capSpace cap target.capSpace .readWrite)

/-- The local variables of a handler. -/
structure Setup where
  /-- The endpoint that was made first. -/
  endpoint : CapId
  /-- What was made last. -/
  cap : CapId
  tid : ThreadId
  deriving DecidableEq, Repr

inductive SetupStep where
  | retype (target : KernelObjectType)
  | spawn
  | announce (service : Service)
  | grant
  | grantDriver
  | publishEndpoint (service : Service)
  | carve (pages : Nat)
  /-- `map_range` into the new address space. -/
  | mapRange
  /-- The windows of a PCI device, or of the registers of another driver. -/
  | windows
  | irqBind (mmio : CapId)
  deriving DecidableEq, Repr

/-- `index` numbers the steps of a handler. -/
def SetupStep.run (caller : ThreadId) (choices : Choices) (index : Nat) (setup : Setup) :
    SetupStep → GlueM μ Setup
  | .retype target => do
      let cap ← newObject clock hal caller target
      if target = .endpoint then return { setup with endpoint := cap, cap }
      else return { setup with cap }
  | .spawn => do
      let tid ← spawnProcessFromElf clock choices index
      return { setup with tid }
  | .announce service => do
      modifyStatics (Statics.setServiceTid service setup.tid)
      return setup
  | .grant => do
      grantInto caller setup.cap setup.tid
      return setup
  | .grantDriver => do
      let glue ← Exec.get
      grantInto caller glue.statics.drvNetEp setup.tid
      return setup
  | .publishEndpoint service => do
      modifyStatics (Statics.setServiceEp service setup.cap)
      return setup
  | .carve pages => do
      let _ ← kernel (KernelState.carve pages)
      return setup
  | .mapRange =>
      if choices.mapped index then return setup else Exec.throw .refused
  | .windows => do
      kernel (KernelState.carveAll choices.windows)
      if choices.mapped index then return setup else Exec.throw .refused
  | .irqBind mmio => do
      let bound ← dispatch clock hal caller (.irqBind mmio setup.cap 0)
      match bound with
      | .ok .done => return setup
      | _ => Exec.throw .refused

def runSetup (caller : ThreadId) (choices : Choices) :
    (index : Nat) → List SetupStep → Setup → GlueM μ Setup
  | _, [], setup => pure setup
  | index, step :: rest, setup => do
      let later ← step.run clock hal caller choices index setup
      runSetup caller choices (index + 1) rest later

/-- Make a process and give it the processor. -/
def startProcess (caller : ThreadId) (choices : Choices) (steps : List SetupStep) :
    GlueM μ (CapId × ThreadId × ThreadId) := do
  let setup ← runSetup clock hal caller choices 0 steps
    { endpoint := 0, cap := 0, tid := caller }
  schedNoteReady clock caller
  schedDispatch clock setup.tid
  let (save, into) ← switchPtrs caller setup.tid
  return (setup.endpoint, save, into)

/-! ## The processes -/

def fsDemoStart (caller : ThreadId) (choices : Choices) :
    GlueM μ (CapId × ThreadId × ThreadId) :=
  startProcess clock hal caller choices
    [.retype .endpoint, .spawn, .announce .fs, .grant, .carve 1, .carve 2, .mapRange,
      .retype .sharedRegion, .grant, .carve 2, .mapRange]

def compositorDemoStart (caller : ThreadId) (choices : Choices) :
    GlueM μ (CapId × ThreadId × ThreadId) :=
  startProcess clock hal caller choices
    [.retype .endpoint, .spawn, .announce .compositor, .grant, .carve 1, .carve 2,
      .mapRange, .retype .sharedRegion, .grant, .carve 2, .mapRange,
      .retype .sharedRegion, .carve 2, .mapRange]

def mmDemoStart (caller : ThreadId) (choices : Choices) :
    GlueM μ (CapId × ThreadId × ThreadId) :=
  startProcess clock hal caller choices
    [.retype .endpoint, .spawn, .announce .mm, .grant, .carve 1, .carve 2, .mapRange]

end GlueM

/-- The device that a capability of the caller names, if there is one. -/
def KernelState.deviceOf (state : KernelState) (caller : ThreadId) (cap : CapId) :
    Option MmioRegionDescriptor := do
  let tcb ← state.tcb caller
  if cap = u32Max then none
  else
    let table ← state.capSpace tcb.capSpace
    let held ← table.lookup cap
    state.mmioRegion held.object.id

/-- Devices on PCI are configured through their configuration space. -/
def MmioRegionDescriptor.isPci (device : MmioRegionDescriptor) : Bool :=
  device.configSpaceBase ≠ 0

namespace GlueM

variable {μ : Type} (clock : Nat → Nat) (hal : HalInterface μ)

def spawnVirtioBlkDriver (caller : ThreadId) (choices : Choices) :
    GlueM μ (CapId × ThreadId × ThreadId) := do
  let glue ← Exec.get
  let mmio := glue.kernel.rootMmioBlkCap
  let device ← Exec.okOr .refused (glue.kernel.deviceOf caller mmio)
  startProcess clock hal caller choices <|
    [.retype .endpoint, .spawn, .announce .drv, .grant] ++
      (if device.isPci then [] else [.carve 2, .mapRange]) ++ [.retype .sharedRegion] ++
      (if device.isPci then [.windows] else []) ++
      [.carve 2, .mapRange, .retype .notification, .irqBind mmio, .grant]

def spawnVirtioNetDriver (caller : ThreadId) (choices : Choices) :
    GlueM μ (CapId × ThreadId × ThreadId) := do
  let glue ← Exec.get
  let mmio := glue.kernel.rootMmioNetCap
  let device ← Exec.okOr .refused (glue.kernel.deviceOf caller mmio)
  startProcess clock hal caller choices <|
    [.retype .endpoint, .spawn, .grant] ++
      (if device.isPci then [] else [.carve 2, .mapRange]) ++
      [.retype .sharedRegion, .carve 2, .mapRange, .retype .sharedRegion, .carve 2,
        .mapRange] ++
      (if device.isPci then [.windows] else []) ++
      [.retype .notification, .irqBind mmio, .grant]

/-- The server, the file system and process B would take the processor from the new
service, so they are put away first. -/
def spawnNetstackService (caller : ThreadId) (choices : Choices) :
    GlueM μ (CapId × ThreadId × ThreadId) := do
  retireIpcServer
  parkFs
  retireProcessB
  let glue ← Exec.get
  let _ ← Exec.okOr .refused (glue.kernel.tcb caller)
  startProcess clock hal caller choices
    [.spawn, .grantDriver, .retype .endpoint, .grant, .announce .netstack,
      .publishEndpoint .netstack, .carve 2, .mapRange, .carve 2, .mapRange, .carve 1,
      .carve 2, .mapRange, .retype .sharedRegion, .carve 2, .mapRange, .windows]

/-! ## The preemption demonstration -/

def spawnDeviceManager (choices : Choices) : GlueM μ Unit := do
  if choices.planned then
    let spawned ← optional (spawnProcessFromElf clock choices 0)
    match spawned with
    | none => pure ()
    | some tid => modifyStatics fun statics => { statics with dmTid := some tid }
  else pure ()

/-- The pool for the page tables has 8 frames, the stack 4. -/
def spawnFaultyDriver (choices : Choices) : GlueM μ (Option ThreadId) := do
  let spawned ← optional (spawnProcess clock [8, 4] choices.entry (choices.mapped 1))
  match spawned with
  | none => return none
  | some tid => do
      modifyStatics fun statics => { statics with watchedDriverTid := some tid }
      return some tid

/-- A fresh thread takes over the loop of the root task. -/
def p2PreemptStart (choices : Choices) : GlueM μ (ThreadId × ThreadId) := do
  let glue ← Exec.get
  if glue.statics.subsysEntry ≠ 0 then
    let _ ← optional
      (spawnProcess clock [8, 4] glue.statics.subsysEntry (choices.mapped 2))
  if glue.statics.aLoopEntry = 0 then Exec.throw .refused
  let fresh ← kernel (KernelState.spawn .thread [])
  initUserThread clock fresh glue.statics.aLoopEntry
  let root := glue.kernel.rootThread
  retire root
  retireIpcServer
  parkFs
  schedDispatch clock fresh
  modifyStatics fun statics => { statics with ticks := 0 }
  switchPtrs root fresh

end GlueM

end Simurgh
