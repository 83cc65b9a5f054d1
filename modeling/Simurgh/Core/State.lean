import Simurgh.Cap.Cdt
import Simurgh.Ipc.Endpoint
import Simurgh.Ipc.Notification
import Simurgh.Mm.AddressSpace
import Simurgh.Sched.Scheduler

/-!
# The kernel state

All object tables and the scheduler, with their configured capacities.  The
hardware below is a parameter: a type of hardware states and the three HAL calls
that syscalls make.
-/

namespace Simurgh

/-! ## Capacities -/

def maxThreads : Nat := 96
def maxChainGroups : Nat := 24
def maxCapSpaces : Nat := 16
def capSlotsPerSpace : Nat := 96
def maxAddrSpaces : Nat := 24
def mappingsPerSpace : Nat := 32
def maxUntyped : Nat := 80
def maxEndpoints : Nat := 48
def maxNotifications : Nat := 48
def maxSharedRegions : Nat := 32
def maxMmioRegions : Nat := 32
def maxIrqBindings : Nat := 64
def endpointQueue : Nat := 8
def notifWaiters : Nat := 8
def interactiveQuantumNs : Nat := 3000000

/-- `u32::MAX`. -/
def u32Max : Nat := 0xffffffff

/-! ## Threads -/

/-- Lifecycle state of a thread. -/
inductive ThreadState where
  | inactive
  | runnable
  | blockedOnSend
  | blockedOnRecv
  | blockedOnReply
  | blockedOnNotification
  | exited
  deriving DecidableEq, Repr

/-- The kernel's record of one thread. -/
structure Tcb where
  id : ThreadId
  capSpace : CapSpaceId
  addrSpace : PageTableId
  entry : Nat
  state : ThreadState
  pendingMsg : Option SmallMessage
  pendingFrom : Option ThreadId
  deriving DecidableEq, Repr

def Tcb.newInactive (id : ThreadId) (capSpace : CapSpaceId) (addrSpace : PageTableId) :
    Tcb where
  id := id
  capSpace := capSpace
  addrSpace := addrSpace
  entry := 0
  state := .inactive
  pendingMsg := none
  pendingFrom := none

/-- A device's MMIO window and interrupt line. -/
structure MmioRegionDescriptor where
  physBase : Nat
  size : Nat
  irq : Nat
  configSpaceBase : Nat
  deriving DecidableEq, Repr

/-! ## The state -/

abbrev KEndpoint := Endpoint endpointQueue
abbrev KNotification := Notification notifWaiters
abbrev RootAddressSpace := AddressSpace mappingsPerSpace
abbrev KScheduler := Scheduler maxThreads maxChainGroups

/-- The entire mutable kernel state. -/
structure KernelState where
  capSpaces : CapTables capSlotsPerSpace maxCapSpaces
  untyped : Slab UntypedMemory maxUntyped
  addrSpaces : Slab RootAddressSpace maxAddrSpaces
  endpoints : Slab KEndpoint maxEndpoints
  notifications : Slab KNotification maxNotifications
  sharedRegions : Slab SharedRegion maxSharedRegions
  mmioRegions : Slab MmioRegionDescriptor maxMmioRegions
  irqBindings : Slab (Nat × NotificationId) maxIrqBindings
  tcbs : Slab Tcb maxThreads
  sched : KScheduler
  rootThread : ThreadId
  rootCapSpace : CapSpaceId
  rootAddrSpace : PageTableId
  rootPageTableCap : CapId
  rootMmioBlkCap : CapId
  rootMmioNetCap : CapId
  untypedCount : Nat
  mapPoolBase : Nat
  mapPoolLen : Nat
  mapPoolUsed : Nat
  deriving DecidableEq, Repr

namespace KernelState

/-- Every table is empty. -/
def empty : KernelState where
  capSpaces := .empty
  untyped := .empty
  addrSpaces := .empty
  endpoints := .empty
  notifications := .empty
  sharedRegions := .empty
  mmioRegions := .empty
  irqBindings := .empty
  tcbs := .empty
  sched := .new interactiveQuantumNs
  rootThread := 0
  rootCapSpace := 0
  rootAddrSpace := 0
  rootPageTableCap := u32Max
  rootMmioBlkCap := u32Max
  rootMmioNetCap := u32Max
  untypedCount := 0
  mapPoolBase := 0
  mapPoolLen := 0
  mapPoolUsed := 0

/-! ## Creating objects -/

section Alloc

variable {ε : Type}

/-- Put a new object into the first empty entry of a table and return its id, or
`none` when the table is full. -/
def allocIn {α : Type} {n : Nat} (table : KernelState → Slab α n)
    (store : Slab α n → KernelState → KernelState) (make : Nat → α) :
    Exec KernelState ε (Option Nat) := do
  let state ← Exec.get
  match (table state).insert make with
  | none => return none
  | some (id, objects) => do
      Exec.modify (store objects)
      return some id

def allocCapSpace : Exec KernelState ε (Option CapSpaceId) :=
  allocIn capSpaces (fun objects state => { state with capSpaces := objects })
    CapTable.new

def allocAddrSpace (rootPhys : Nat) : Exec KernelState ε (Option PageTableId) :=
  allocIn addrSpaces (fun objects state => { state with addrSpaces := objects })
    fun _ => .new rootPhys

def allocUntyped (base size : Nat) : Exec KernelState ε (Option UntypedId) :=
  allocIn untyped (fun objects state => { state with untyped := objects })
    fun _ => .new base size

def allocTcb (capSpace : CapSpaceId) (addrSpace : PageTableId) :
    Exec KernelState ε (Option ThreadId) :=
  allocIn tcbs (fun objects state => { state with tcbs := objects })
    fun id => .newInactive id capSpace addrSpace

def allocEndpoint : Exec KernelState ε (Option EndpointId) :=
  allocIn endpoints (fun objects state => { state with endpoints := objects })
    fun _ => .new

def allocNotification : Exec KernelState ε (Option NotificationId) :=
  allocIn notifications (fun objects state => { state with notifications := objects })
    fun _ => .new

def allocSharedRegion (region : SharedRegion) :
    Exec KernelState ε (Option SharedRegionId) :=
  allocIn sharedRegions (fun objects state => { state with sharedRegions := objects })
    fun _ => region

def allocMmioRegionDirect (descriptor : MmioRegionDescriptor) :
    Exec KernelState ε (Option MmioRegionId) :=
  allocIn mmioRegions (fun objects state => { state with mmioRegions := objects })
    fun _ => descriptor

end Alloc

/-! ## Accessors -/

def capSpace (state : KernelState) (id : CapSpaceId) :
    Option (CapTable capSlotsPerSpace) :=
  state.capSpaces.get? id

def tcb (state : KernelState) (id : ThreadId) : Option Tcb :=
  state.tcbs.get? id

def mmioRegion (state : KernelState) (id : MmioRegionId) : Option MmioRegionDescriptor :=
  state.mmioRegions.get? id

/-- Update a thread's record, if the thread exists. -/
def updateTcb (id : ThreadId) (update : Tcb → Tcb) (state : KernelState) : KernelState :=
  match state.tcb id with
  | none => state
  | some tcb => { state with tcbs := state.tcbs.put id (update tcb) }

/-- Updating a thread's record touches nothing else. -/
theorem updateTcb_frame (id : ThreadId) (update : Tcb → Tcb) (state : KernelState) :
    updateTcb id update state =
      { state with tcbs := (updateTcb id update state).tcbs } := by
  unfold updateTcb
  cases state.tcb id with
  | none => rfl
  | some tcb => rfl

@[simp]
theorem sched_updateTcb (id : ThreadId) (update : Tcb → Tcb) (state : KernelState) :
    (updateTcb id update state).sched = state.sched := by
  rw [updateTcb_frame]

theorem endpoints_updateTcb (id : ThreadId) (update : Tcb → Tcb) (state : KernelState) :
    (updateTcb id update state).endpoints = state.endpoints := by
  rw [updateTcb_frame]

theorem tcb_updateTcb (id : ThreadId) (update : Tcb → Tcb) (state : KernelState)
    (other : ThreadId) :
    (updateTcb id update state).tcb other =
      if other = id then (state.tcb other).map update else state.tcb other := by
  unfold updateTcb
  cases present : state.tcb id with
  | none =>
      by_cases same : other = id
      · simp [same, present]
      · simp [same]
  | some found =>
      change (state.tcbs.put id (update found)).get? other = _
      rw [Slab.get?_put_of_some present]
      by_cases same : other = id
      · simp [same, present]
      · rw [if_neg (Ne.symm same), if_neg same]
        rfl

/-- Bind an interrupt line to a notification, overwriting a previous binding of
the line.  `false` when there is no room. -/
def bindIrq (irq : Nat) (notification : NotificationId) (state : KernelState) :
    Bool × KernelState :=
  match state.irqBindings.find? fun binding => binding.1 == irq with
  | some (slot, _) =>
      (true, { state with
        irqBindings := state.irqBindings.put slot (irq, notification) })
  | none =>
      match state.irqBindings.insert fun _ => (irq, notification) with
      | some (_, bindings) => (true, { state with irqBindings := bindings })
      | none => (false, state)

/-- Binding a line touches nothing but the bindings. -/
theorem bindIrq_frame (irq : Nat) (notification : NotificationId) (state : KernelState) :
    (bindIrq irq notification state).2 =
      { state with irqBindings := (bindIrq irq notification state).2.irqBindings } := by
  unfold bindIrq
  split
  · rfl
  · split
    · rfl
    · rfl

/-- Where the next `map_range` call draws frames from, and how many are left. -/
def mapPoolRemaining (state : KernelState) : Option (Nat × Nat) := do
  let base ← checkedAdd state.mapPoolBase (state.mapPoolUsed * pageSize)
  if state.mapPoolUsed ≤ state.mapPoolLen then
    return (base, state.mapPoolLen - state.mapPoolUsed)
  else
    none

/-- Install the pool of page-table frames. -/
def installMapPool (base len : Nat) (state : KernelState) : KernelState :=
  { state with mapPoolBase := base, mapPoolLen := len, mapPoolUsed := 0 }

end KernelState

/-! ## The machine -/

/-- The HAL calls that syscalls make, over hardware states `μ`.  `mapRange` returns
the number of pool frames it consumed, or `u32Max`. -/
structure HalInterface (μ : Type) where
  mapRange : (rootFrame vaddr paddr len permBits poolBase poolLen : Nat) → μ → Nat × μ
  registerIrq : (irq handler : Nat) → μ → Bool × μ
  flushTlb : μ → μ

/-- The kernel together with the hardware. -/
structure Machine (μ : Type) where
  kernel : KernelState
  hw : μ

end Simurgh
