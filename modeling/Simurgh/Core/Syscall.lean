import Simurgh.Core.State

/-!
# The syscall layer

`dispatch` resolves capabilities in the caller's space, checks rights, and runs
one of thirteen operations.  All but `Map` and `IrqBind` leave the hardware alone
and are programs over the kernel state.
-/

namespace Simurgh

/-- The complete syscall set. -/
inductive SyscallOp where
  | send (endpoint : CapId) (msg : SmallMessage)
  | recv (endpoint : CapId)
  | call (endpoint : CapId) (msg : SmallMessage)
  | reply (toThread : ThreadId) (msg : SmallMessage)
  | yield
  | capGrant (targetThread cap : CapId) (rights : CapabilityRights)
  | capRevoke (cap : CapId)
  | retype (untyped : CapId) (targetType : KernelObjectType) (count : Nat)
  | map (pageTable frame : CapId) (vaddr : Nat) (perms : MapPermissions)
  | signal (notification : CapId) (bits : Nat)
  | wait (notification : CapId)
  | poll (notification : CapId)
  | irqBind (mmio notification : CapId) (handler : Nat)
  deriving DecidableEq, Repr

inductive SyscallReturn where
  | done
  | value (value : Nat)
  | newCaps (cap : CapId) (count : Nat)
  | revoked (freed : Nat)
  | granted (dst : CapId)
  | mapped
  | blocked
  | delivered (woke : ThreadId)
  | message (sender : ThreadId) (msg : SmallMessage)
  | reschedule (next : Option ThreadId)
  deriving DecidableEq, Repr

inductive SyscallError where
  | noCaller
  | badCap
  | wrongObjectKind
  | insufficientRights
  | objectTableFull
  | cap (error : CapTableError)
  | mm (error : MmError)
  | ipc (error : IpcError)
  | sched (error : SchedError)
  | notBlockedOnReply
  | notify (error : NotificationError)
  | irqRegistrationFailed
  | unsupported
  deriving DecidableEq, Repr

/-- The only endpoint failure is a full queue. -/
def SyscallError.ofEndpoint : EndpointError → SyscallError
  | .queueFull => .ipc .queueFull

namespace KernelState

/-! ## Running programs on one object -/

/-- `self.table.get_mut(id).ok_or(absent)?`, then a call on the object. -/
def onObject {α β δ : Type} {n : Nat} (table : KernelState → Slab α n)
    (store : Slab α n → KernelState → KernelState) (absent : SyscallError)
    (convert : δ → SyscallError) (id : Nat) (program : Exec α δ β) :
    Exec KernelState SyscallError β := do
  let state ← Exec.get
  let object ← Exec.okOr absent ((table state).get? id)
  Exec.zoom (fun _ => object) (fun object state => store ((table state).put id object) state)
    convert program

def onUntyped {β : Type} (id : UntypedId) (program : Exec UntypedMemory MmError β) :
    Exec KernelState SyscallError β :=
  onObject untyped (fun objects state => { state with untyped := objects })
    .badCap .mm id program

def onAddrSpace {β : Type} (id : PageTableId)
    (program : Exec RootAddressSpace MmError β) : Exec KernelState SyscallError β :=
  onObject addrSpaces (fun objects state => { state with addrSpaces := objects })
    .badCap .mm id program

def onEndpoint {β : Type} (id : EndpointId) (program : Exec KEndpoint EndpointError β) :
    Exec KernelState SyscallError β :=
  onObject endpoints (fun objects state => { state with endpoints := objects })
    .badCap .ofEndpoint id program

def onNotification {β : Type} (id : NotificationId)
    (program : Exec KNotification NotificationError β) :
    Exec KernelState SyscallError β :=
  onObject notifications (fun objects state => { state with notifications := objects })
    .badCap .notify id program

def onCapSpaces {β : Type}
    (program : Exec (CapTables capSlotsPerSpace maxCapSpaces) CapTableError β) :
    Exec KernelState SyscallError β :=
  Exec.zoom capSpaces (fun objects state => { state with capSpaces := objects })
    .cap program

def onSched {β : Type} (program : Exec KScheduler SchedError β) :
    Exec KernelState SyscallError β :=
  Exec.zoom sched (fun part state => { state with sched := part }) .sched program

/-! ## Resolving capabilities -/

def callerCapSpace (state : KernelState) (caller : ThreadId) :
    Except SyscallError CapSpaceId :=
  match state.tcb caller with
  | none => .error .noCaller
  | some tcb => .ok tcb.capSpace

/-- The capability at `cap` in the caller's space. -/
def lookupCap (state : KernelState) (caller : ThreadId) (cap : CapId) :
    Except SyscallError Capability := do
  let csId ← state.callerCapSpace caller
  match state.capSpace csId with
  | none => .error .noCaller
  | some table =>
      match table.lookup cap with
      | none => .error .badCap
      | some held => .ok held

/-- The kind of the object that `cap` names. -/
def capKindOf (state : KernelState) (caller : ThreadId) (cap : CapId) :
    Except SyscallError KernelObjectKind := do
  let held ← state.lookupCap caller cap
  return held.object.kind

/-- The capability at `cap`, which must name an object of kind `kind` and carry
every right in `needed`. -/
def resolve (state : KernelState) (caller : ThreadId) (cap : CapId)
    (kind : KernelObjectKind) (needed : CapabilityRights) :
    Except SyscallError Capability := do
  let held ← state.lookupCap caller cap
  if held.object.kind ≠ kind then .error .wrongObjectKind
  else if !held.allows needed then .error .insufficientRights
  else .ok held

/-! ## Capabilities -/

def doCapRevoke (caller : ThreadId) (cap : CapId) :
    Exec KernelState SyscallError SyscallReturn := do
  let state ← Exec.get
  let kind ← Exec.ofExcept (state.capKindOf caller cap)
  let _ ← Exec.ofExcept (state.resolve caller cap kind .revoke)
  let csId ← Exec.ofExcept (state.callerCapSpace caller)
  let freed ← onCapSpaces (CapTables.revokeCrossSpace { space := csId, cap })
  return .revoked freed

/-- Two different tables, one to read and one to write. -/
def capSpacePair (state : KernelState) (src dst : CapSpaceId) :
    Option (CapTable capSlotsPerSpace × CapTable capSlotsPerSpace) :=
  if src = dst then none
  else do
    let srcTable ← state.capSpace src
    let dstTable ← state.capSpace dst
    return (srcTable, dstTable)

theorem capSpacePair_eq_some {state : KernelState} {src dst : CapSpaceId}
    {srcTable dstTable : CapTable capSlotsPerSpace}
    (paired : state.capSpacePair src dst = some (srcTable, dstTable)) :
    state.capSpaces.get? src = some srcTable ∧ state.capSpaces.get? dst = some dstTable := by
  unfold capSpacePair at paired
  by_cases same : src = dst
  · simp [same] at paired
  · rw [if_neg same] at paired
    obtain ⟨first, here, paired⟩ := Option.bind_eq_some_iff.1 paired
    obtain ⟨second, there, paired⟩ := Option.bind_eq_some_iff.1 paired
    obtain ⟨rfl, rfl⟩ := Prod.mk.inj (Option.some.inj paired)
    exact ⟨here, there⟩

def doCapGrant (caller : ThreadId) (targetThread cap : CapId)
    (rights : CapabilityRights) : Exec KernelState SyscallError SyscallReturn := do
  let state ← Exec.get
  let tcap ← Exec.ofExcept
    (state.resolve caller targetThread .threadControlBlock .write)
  let dstTcb ← Exec.okOr .badCap (state.tcb tcap.object.id)
  let kind ← Exec.ofExcept (state.capKindOf caller cap)
  let _ ← Exec.ofExcept (state.resolve caller cap kind .grant)
  let srcCs ← Exec.ofExcept (state.callerCapSpace caller)
  let (srcTable, _) ← Exec.okOr .badCap (state.capSpacePair srcCs dstTcb.capSpace)
  let dst ← onCapSpaces
    (CapTables.onTable dstTcb.capSpace
      (CapTable.deriveChildCrossSpace srcTable srcCs cap rights 0))
  return .granted dst

/-! ## Retype -/

/-- The first part of `Retype`: check the capability and reserve the range. -/
def reserveRange (caller : ThreadId) (untyped : CapId) (targetType : KernelObjectType)
    (count : Nat) : Exec KernelState SyscallError RetypeGrant := do
  let state ← Exec.get
  let ucap ← Exec.ofExcept (state.resolve caller untyped .untypedMemory .write)
  onUntyped ucap.object.id (UntypedMemory.retype targetType count)

/-- Create one object whose backing memory starts at `objPhys`. -/
def allocObject (caller : ThreadId) (targetType : KernelObjectType) (objPhys : Nat) :
    Exec KernelState SyscallError ObjectRef := do
  let per := objectSizeBytes targetType
  let created ←
    match targetType with
    | .endpoint => allocEndpoint
    | .notification => allocNotification
    | .pageTable => allocAddrSpace objPhys
    | .capabilitySpace => allocCapSpace
    | .threadControlBlock => do
        let state ← Exec.get
        let tcb ← Exec.okOr .noCaller (state.tcb caller)
        allocTcb tcb.capSpace tcb.addrSpace
    | .untyped => allocUntyped objPhys per
    | .sharedRegion =>
        allocSharedRegion
          { physBase := objPhys, size := per, maxRights := .readWrite }
  let id ← Exec.okOr .objectTableFull created
  return { kind := targetType.asObjectKind, id }

/-- Put a full capability to a new object into the caller's space. -/
def insertNewCap (csId : CapSpaceId) (object : ObjectRef) :
    Exec KernelState SyscallError CapId := do
  let state ← Exec.get
  let _ ← Exec.okOr .noCaller (state.capSpace csId)
  onCapSpaces (CapTables.onTable csId (CapTable.insertRoot (.full object)))

/-- The creation loop, with `remaining` rounds left from object `i` on.  It
returns the first new capability. -/
def createObjects (caller : ThreadId) (csId : CapSpaceId)
    (targetType : KernelObjectType) (physBase : Nat) :
    (i remaining : Nat) → (first : Option CapId) →
      Exec KernelState SyscallError (Option CapId)
  | _, 0, first => pure first
  | i, remaining + 1, first => do
      let object ← allocObject caller targetType
        (physBase + i * objectSizeBytes targetType)
      let slot ← insertNewCap csId object
      createObjects caller csId targetType physBase (i + 1) remaining
        (first.or (some slot))

def doRetype (caller : ThreadId) (untyped : CapId) (targetType : KernelObjectType)
    (count : Nat) : Exec KernelState SyscallError SyscallReturn := do
  let grant ← reserveRange caller untyped targetType count
  let state ← Exec.get
  let csId ← Exec.ofExcept (state.callerCapSpace caller)
  let first ← createObjects caller csId targetType grant.physBase 0 grant.count none
  let cap ← Exec.okOr (.mm .zeroCount) first
  return .newCaps cap grant.count

/-! ## Notifications -/

/-- `wake_blocked`. -/
def wakeBlocked (thread : ThreadId) (nowNs : Nat) :
    Exec KernelState SyscallError Unit :=
  Exec.attempt (onSched (Scheduler.noteReady thread nowNs))

def wakeAll (nowNs : Nat) : List ThreadId → Exec KernelState SyscallError Unit
  | [] => pure ()
  | thread :: rest => do
      wakeBlocked thread nowNs
      wakeAll nowNs rest

def doSignal (caller : ThreadId) (notification : CapId) (bits nowNs : Nat) :
    Exec KernelState SyscallError SyscallReturn := do
  let state ← Exec.get
  let cap ← Exec.ofExcept (state.resolve caller notification .notification .write)
  let woken ← onNotification cap.object.id (Notification.signal bits)
  wakeAll nowNs woken
  return .done

def doWait (caller : ThreadId) (notification : CapId) (nowNs : Nat) :
    Exec KernelState SyscallError SyscallReturn := do
  let state ← Exec.get
  let cap ← Exec.ofExcept (state.resolve caller notification .notification .read)
  let bits ← onNotification cap.object.id Notification.poll
  if bits ≠ 0 then
    return .value bits
  else
    onNotification cap.object.id (Notification.wait caller)
    Exec.modify fun state => { state with sched := state.sched.account nowNs }
    Exec.attempt (onSched (Scheduler.noteBlocked caller))
    return .blocked

def doPoll (caller : ThreadId) (notification : CapId) :
    Exec KernelState SyscallError SyscallReturn := do
  let state ← Exec.get
  let cap ← Exec.ofExcept (state.resolve caller notification .notification .read)
  let bits ← onNotification cap.object.id Notification.poll
  return .value bits

/-! ## Endpoints -/

/-- Will a `Call` hand over to a receiver at once? -/
def fastPath (state : KernelState) (eid : EndpointId) (msg : SmallMessage)
    (isCall : Bool) : Bool :=
  isCall &&
    match state.endpoints.get? eid with
    | none => false
    | some endpoint =>
        match fastPathEligible endpoint msg isCall with
        | .take _ => true
        | .fallback _ => false

/-- `endpoint_mut(eid).and_then(|ep| ep.take_delivered())`. -/
def takeDeliveredAt (eid : EndpointId) :
    Exec KernelState SyscallError (Option (ThreadId × SmallMessage)) := do
  let state ← Exec.get
  match state.endpoints.get? eid with
  | none => return none
  | some _ => onEndpoint eid Endpoint.takeDelivered

/-- Hand a message to a thread that was blocked in `Recv`, and make it ready. -/
def deliver (caller : ThreadId) (nowNs : Nat) :
    Option (ThreadId × SmallMessage) → Exec KernelState SyscallError Unit
  | none => pure ()
  | some (receiver, msg) => do
      Exec.modify <| updateTcb receiver fun tcb =>
        { tcb with pendingMsg := some msg, pendingFrom := some caller, state := .runnable }
      onSched (Scheduler.noteReady receiver nowNs)

/-- The caller blocks in state `blocked`. -/
def blockCaller (caller : ThreadId) (blocked : ThreadState) :
    Exec KernelState SyscallError Unit := do
  Exec.modify (updateTcb caller fun tcb => { tcb with state := blocked })
  onSched (Scheduler.noteBlocked caller)

def doSend (caller : ThreadId) (endpoint : CapId) (msg : SmallMessage)
    (isCall : Bool) (nowNs : Nat) : Exec KernelState SyscallError SyscallReturn := do
  let state ← Exec.get
  let epCap ← Exec.ofExcept (state.resolve caller endpoint .endpoint .write)
  let eid := epCap.object.id
  let fast := state.fastPath eid msg isCall
  let outcome ← onEndpoint eid (Endpoint.trySend caller msg true)
  match outcome with
  | .deliveredTo receiver => do
      let delivered ← takeDeliveredAt eid
      deliver caller nowNs delivered
      if isCall then
        blockCaller caller .blockedOnReply
        let state ← Exec.get
        return .reschedule (if fast then some receiver else state.sched.pickNext)
      else
        return .delivered receiver
  | .senderQueued => do
      blockCaller caller (if isCall then .blockedOnReply else .blockedOnSend)
      let state ← Exec.get
      return .reschedule state.sched.pickNext
  | .wouldBlock => return .blocked

def doRecv (caller : ThreadId) (endpoint : CapId) (nowNs : Nat) :
    Exec KernelState SyscallError SyscallReturn := do
  let state ← Exec.get
  let epCap ← Exec.ofExcept (state.resolve caller endpoint .endpoint .read)
  let outcome ← onEndpoint epCap.object.id (Endpoint.tryRecv caller true)
  match outcome with
  | .received sender msg => do
      Exec.modify <| updateTcb sender fun tcb =>
        if tcb.state ≠ .blockedOnReply then { tcb with state := .runnable } else tcb
      Exec.attempt (onSched (Scheduler.noteReady sender nowNs))
      return .message sender msg
  | .receiverQueued => do
      blockCaller caller .blockedOnRecv
      let state ← Exec.get
      return .reschedule state.sched.pickNext
  | .wouldBlock => return .blocked

/-- Is the thread waiting for a reply? -/
def isBlockedOnReply (state : KernelState) (thread : ThreadId) : Bool :=
  match state.tcb thread with
  | none => false
  | some tcb => tcb.state = .blockedOnReply

def doReply (caller toThread : ThreadId) (msg : SmallMessage) (nowNs : Nat) :
    Exec KernelState SyscallError SyscallReturn := do
  Exec.guard (caller != toThread) .notBlockedOnReply
  let state ← Exec.get
  Exec.guard (state.isBlockedOnReply toThread) .notBlockedOnReply
  Exec.modify <| updateTcb toThread fun tcb =>
    { tcb with pendingMsg := some msg, state := .runnable }
  onSched (Scheduler.noteReady toThread nowNs)
  onSched (Scheduler.noteReady caller nowNs)
  return .reschedule (some toThread)

/-! ## Map -/

/-- The rights a mapping needs on its frame. -/
def frameRights (perms : MapPermissions) : CapabilityRights :=
  if perms.executable then CapabilityRights.read.union .execute
  else if perms.writable then CapabilityRights.read.union .write
  else .read

/-- The physical page a frame capability stands for. -/
def framePhys (state : KernelState) (frame : Capability) : Except SyscallError Nat :=
  match frame.object.kind with
  | .untypedMemory =>
      match state.untyped.get? frame.object.id with
      | none => .error .badCap
      | some region => .ok region.base
  | .mmioRegion =>
      match state.mmioRegion frame.object.id with
      | none => .error .badCap
      | some descriptor => .ok descriptor.physBase
  | _ => .error .wrongObjectKind

/-- A mapping that the software model has accepted. -/
structure AcceptedMap where
  asId : PageTableId
  rootPhys : Nat
  framePhys : Nat
  deriving DecidableEq, Repr

/-- The first part of `Map`: check the capabilities and record the mapping. -/
def mapSoftware (caller : ThreadId) (pageTable frame : CapId) (vaddr : Nat)
    (perms : MapPermissions) : Exec KernelState SyscallError AcceptedMap := do
  let state ← Exec.get
  let pt ← Exec.ofExcept (state.resolve caller pageTable .pageTable .write)
  let fr ← Exec.ofExcept (state.lookupCap caller frame)
  Exec.guard (fr.allows (frameRights perms)) .insufficientRights
  let framePhys ← Exec.ofExcept (state.framePhys fr)
  let asId := pt.object.id
  let rootPhys ← onAddrSpace asId do
    AddressSpace.map vaddr framePhys pageSize perms
    let space ← Exec.get
    return space.rootPhys
  return { asId, rootPhys, framePhys }

/-- Undo the software mapping at `vaddr`. -/
def rollback (asId : PageTableId) (vaddr : Nat) : Exec KernelState SyscallError Unit :=
  Exec.attempt (onAddrSpace asId (AddressSpace.unmap vaddr))

/-- `R=1 | W=2 | X=4 | U=8`, with `U` always set. -/
def permBits (perms : MapPermissions) : Nat :=
  perms.readable.toNat ||| perms.writable.toNat <<< 1 |||
    perms.executable.toNat <<< 2 ||| 1 <<< 3

def mapPoolAdvance (consumed : Nat) : Exec KernelState SyscallError Unit := do
  let state ← Exec.get
  Exec.ensure (state.mapPoolUsed + consumed ≤ u32Max)
  Exec.modify fun state => { state with mapPoolUsed := state.mapPoolUsed + consumed }

end KernelState

/-! ## Syscalls that reach the hardware -/

namespace Machine

variable {μ : Type}

def onKernel {ε α : Type} (program : Exec KernelState ε α) : Exec (Machine μ) ε α :=
  Exec.zoom kernel (fun kernel machine => { machine with kernel }) id program

/-- The second part of `Map`: walk the mapping into the hardware tables, and
roll the software model back when that fails. -/
def mapHardware (hal : HalInterface μ) (accepted : KernelState.AcceptedMap)
    (vaddr : Nat) (perms : MapPermissions) : Exec (Machine μ) SyscallError Unit := do
  let machine ← Exec.get
  let (poolBase, poolLen) ← Exec.expect machine.kernel.mapPoolRemaining
  let (consumed, hw) := hal.mapRange accepted.rootPhys vaddr accepted.framePhys pageSize
    (KernelState.permBits perms) poolBase poolLen machine.hw
  Exec.modify fun machine => { machine with hw }
  if consumed = u32Max then
    onKernel (KernelState.rollback accepted.asId vaddr)
    Exec.throw (.mm .hardwareMapFailed)
  else
    onKernel (KernelState.mapPoolAdvance consumed)
    Exec.modify fun machine => { machine with hw := hal.flushTlb machine.hw }

def doMap (hal : HalInterface μ) (caller : ThreadId) (pageTable frame : CapId)
    (vaddr : Nat) (perms : MapPermissions) :
    Exec (Machine μ) SyscallError SyscallReturn := do
  let accepted ← onKernel (KernelState.mapSoftware caller pageTable frame vaddr perms)
  let machine ← Exec.get
  if machine.kernel.mapPoolBase ≠ 0 then
    mapHardware hal accepted vaddr perms
    return .mapped
  else
    return .mapped

def doIrqBind (hal : HalInterface μ) (caller : ThreadId) (mmio notification : CapId)
    (handler : Nat) : Exec (Machine μ) SyscallError SyscallReturn := do
  let machine ← Exec.get
  let state := machine.kernel
  let mmioCap ← Exec.ofExcept (state.resolve caller mmio .mmioRegion .write)
  let descriptor ← Exec.okOr .badCap (state.mmioRegion mmioCap.object.id)
  let notifCap ← Exec.ofExcept
    (state.resolve caller notification .notification .write)
  let (bound, kernel) := state.bindIrq descriptor.irq notifCap.object.id
  Exec.modify fun machine => { machine with kernel }
  Exec.guard bound .objectTableFull
  let (registered, hw) := hal.registerIrq descriptor.irq handler machine.hw
  Exec.modify fun machine => { machine with hw }
  Exec.guard registered .irqRegistrationFailed
  return .done

/-- The syscall entry point. -/
def dispatch (hal : HalInterface μ) (caller : ThreadId) (nowNs : Nat) :
    SyscallOp → Exec (Machine μ) SyscallError SyscallReturn
  | .yield => onKernel do
      Exec.modify fun state => { state with sched := state.sched.account nowNs }
      let state ← Exec.get
      return .reschedule state.sched.pickNext
  | .capRevoke cap => onKernel (KernelState.doCapRevoke caller cap)
  | .retype untyped targetType count =>
      onKernel (KernelState.doRetype caller untyped targetType count)
  | .capGrant targetThread cap rights =>
      onKernel (KernelState.doCapGrant caller targetThread cap rights)
  | .map pageTable frame vaddr perms => doMap hal caller pageTable frame vaddr perms
  | .send endpoint msg => onKernel (KernelState.doSend caller endpoint msg false nowNs)
  | .call endpoint msg => onKernel (KernelState.doSend caller endpoint msg true nowNs)
  | .recv endpoint => onKernel (KernelState.doRecv caller endpoint nowNs)
  | .reply toThread msg => onKernel (KernelState.doReply caller toThread msg nowNs)
  | .signal notification bits =>
      onKernel (KernelState.doSignal caller notification bits nowNs)
  | .wait notification => onKernel (KernelState.doWait caller notification nowNs)
  | .poll notification => onKernel (KernelState.doPoll caller notification)
  | .irqBind mmio notification handler => doIrqBind hal caller mmio notification handler

end Machine

end Simurgh
