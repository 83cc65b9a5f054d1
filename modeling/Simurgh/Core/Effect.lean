import Simurgh.Cap.Reachable
import Simurgh.Core.Syscall
import Simurgh.Sched.Spec

/-!
# What one syscall does

`Effect` lists every way in which one syscall can change the kernel state, with
the capability that allowed it.  The programs of the syscall layer are compared
with it elsewhere.  What is proved about runs of the kernel starts from here.
-/

namespace Simurgh

namespace KernelState

/-! ## Updates -/

/-- The thread blocks in state `blocked`. -/
def block (thread : ThreadId) (blocked : ThreadState) (state : KernelState) :
    KernelState :=
  { state.updateTcb thread fun tcb => { tcb with state := blocked } with
    sched := state.sched.setBlocked thread }

/-- The receiver of a message is made ready. -/
def handOver (receiver sender : ThreadId) (msg : SmallMessage) (nowNs : Nat)
    (state : KernelState) : KernelState :=
  { state.updateTcb receiver fun tcb =>
      { tcb with pendingMsg := some msg, pendingFrom := some sender, state := .runnable } with
    sched := state.sched.setReady receiver nowNs }

/-- The sender whose message was taken is made ready.  A thread that awaits a
reply keeps its state. -/
def release (sender : ThreadId) (nowNs : Nat) (state : KernelState) : KernelState :=
  { state.updateTcb sender fun tcb =>
      if tcb.state ≠ .blockedOnReply then { tcb with state := .runnable } else tcb with
    sched := state.sched.setReady sender nowNs }

/-- The reply is stored with the thread that awaits it. -/
def storeReply (toThread : ThreadId) (msg : SmallMessage) (state : KernelState) :
    KernelState :=
  state.updateTcb toThread fun tcb =>
    { tcb with pendingMsg := some msg, state := .runnable }

def putEndpoint (eid : EndpointId) (endpoint : KEndpoint) (state : KernelState) :
    KernelState :=
  { state with endpoints := state.endpoints.put eid endpoint }

def putNotification (nid : NotificationId) (notification : KNotification)
    (state : KernelState) : KernelState :=
  { state with notifications := state.notifications.put nid notification }

def putAddrSpace (asId : PageTableId) (space : RootAddressSpace) (state : KernelState) :
    KernelState :=
  { state with addrSpaces := state.addrSpaces.put asId space }

def putUntyped (uid : UntypedId) (region : UntypedMemory) (state : KernelState) :
    KernelState :=
  { state with untyped := state.untyped.put uid region }

/-! ## Authority -/

/-- The caller's space `csId` holds at `cap` a capability to the object `id` of
kind `kind` with every right in `needed`. -/
structure Holds (state : KernelState) (caller : ThreadId) (csId : CapSpaceId)
    (cap : CapId) (kind : KernelObjectKind) (needed : CapabilityRights)
    (id : ObjectId) : Prop where
  space : state.callerCapSpace caller = .ok csId
  held : ∃ held, state.capSpaces.lookup { space := csId, cap } = some held ∧
    held.object = { kind, id } ∧ held.allows needed = true

/-! ## Creation -/

/-- Is there an object with this name? -/
def hasObject (state : KernelState) (object : ObjectRef) : Bool :=
  match object.kind with
  | .untypedMemory => (state.untyped.get? object.id).isSome
  | .pageTable => (state.addrSpaces.get? object.id).isSome
  | .threadControlBlock => (state.tcbs.get? object.id).isSome
  | .endpoint => (state.endpoints.get? object.id).isSome
  | .notification => (state.notifications.get? object.id).isSome
  | .capabilitySpace => (state.capSpaces.get? object.id).isSome
  | .sharedRegion => (state.sharedRegions.get? object.id).isSome
  | .mmioRegion => (state.mmioRegions.get? object.id).isSome

end KernelState

/-- The pages of a grant. -/
def RetypeGrant.Page (grant : RetypeGrant) (phys : Nat) : Prop :=
  ∃ i < grant.count, phys = grant.physBase + i * pageSize

namespace KernelState

/-- A slot of the caller's space got a full capability to a new object. -/
def NewCap (csId : CapSpaceId) (targetType : KernelObjectType)
    (before after : KernelState) (id : GlobalCapId) : Prop :=
  id.space = csId ∧ before.capSpaces.lookup id = none ∧
    after.capSpaces.parentOf id = none ∧
    ∃ object, after.capSpaces.lookup id = some (.full object) ∧
      object.kind = targetType.asObjectKind ∧
      before.hasObject object = false ∧ after.hasObject object = true

/-- What the creation loop of `Retype` may do, finished or not.  Tables only grow,
by objects that are new and lie in the granted pages. -/
structure Creates (csId : CapSpaceId) (targetType : KernelObjectType)
    (grant : RetypeGrant) (before after : KernelState) : Prop where
  frame : after =
    { before with
      capSpaces := after.capSpaces, untyped := after.untyped
      addrSpaces := after.addrSpaces, endpoints := after.endpoints
      notifications := after.notifications, sharedRegions := after.sharedRegions
      tcbs := after.tcbs }
  untyped : before.untyped.GrowsBy
      (fun _ region => targetType = .untyped ∧
        ∃ base, grant.Page base ∧ region = .new base pageSize)
      after.untyped := by exact .refl _
  addrSpaces : before.addrSpaces.GrowsBy
      (fun _ space => targetType = .pageTable ∧
        ∃ root, grant.Page root ∧ space = .new root)
      after.addrSpaces := by exact .refl _
  endpoints : before.endpoints.GrowsBy (fun _ endpoint => endpoint = .new)
      after.endpoints := by exact .refl _
  notifications : before.notifications.GrowsBy
      (fun _ notification => notification = .new) after.notifications := by
    exact .refl _
  sharedRegions : before.sharedRegions.GrowsBy (fun _ _ => True)
      after.sharedRegions := by exact .refl _
  tcbs : before.tcbs.GrowsBy
      (fun id tcb => ∃ capSpace addrSpace, tcb = .newInactive id capSpace addrSpace)
      after.tcbs := by exact .refl _
  spaces : ∀ space, space ≠ csId →
      after.capSpaces.get? space = before.capSpaces.get? space ∨
        before.capSpaces.get? space = none ∧
          after.capSpaces.get? space = some (.new space) := by
    exact fun _ _ => Or.inl rfl
  tables : ∀ space, (before.capSpaces.get? space).isSome →
      (after.capSpaces.get? space).isSome := by exact fun _ present => present
  caps : before.capSpaces.Wf → after.capSpaces.Wf ∧ ∀ id,
      (after.capSpaces.lookup id = before.capSpaces.lookup id ∧
        after.capSpaces.parentOf id = before.capSpaces.parentOf id) ∨
      NewCap csId targetType before after id := by
    exact fun wf => ⟨wf, fun _ => Or.inl ⟨rfl, rfl⟩⟩

/-- Different new objects lie in different pages. -/
structure NewPages (before after : KernelState) : Prop where
  untyped : ∀ i j first second, before.untyped.get? i = none →
    before.untyped.get? j = none → after.untyped.get? i = some first →
    after.untyped.get? j = some second → first.base = second.base → i = j
  roots : ∀ i j first second, before.addrSpaces.get? i = none →
    before.addrSpaces.get? j = none → after.addrSpaces.get? i = some first →
    after.addrSpaces.get? j = some second → first.rootPhys = second.rootPhys → i = j

/-- The region that an untyped capability of the caller names. -/
def untypedAt (state : KernelState) (caller : ThreadId) (untyped : CapId) :
    Option UntypedMemory :=
  match state.resolve caller untyped .untypedMemory .write with
  | .error _ => none
  | .ok cap => state.untyped.get? cap.object.id

/-- The memory that a `Retype` is about to reserve. -/
def reserves (state : KernelState) (caller : ThreadId) : SyscallOp → Option RetypeGrant
  | .retype untyped targetType count =>
      (state.untypedAt caller untyped).bind fun region =>
        (UntypedMemory.retype targetType count region).value?
  | _ => none

/-! ## The effects -/

/-- One syscall takes the state `before` to the last argument.  The argument
before it is the thread that the result says to run next. -/
inductive Effect (caller : ThreadId) (nowNs : Nat) (before : KernelState) :
    SyscallOp → Option ThreadId → KernelState → Prop where
  | unchanged (op : SyscallOp)
      (idle : before.reserves caller op = none := by exact rfl) :
      Effect caller nowNs before op none before
  | yielded :
      Effect caller nowNs before .yield (before.sched.account nowNs).pickNext
        { before with sched := before.sched.account nowNs }
  | revoked {csId cap kind id tables}
      (holds : before.Holds caller csId cap kind .revoke id)
      (ran : ((CapTables.run (.revokeCrossSpace { space := csId, cap }))
        before.capSpaces).state? = some tables) :
      Effect caller nowNs before (.capRevoke cap) none
        { before with capSpaces := tables }
  | granted {csId targetThread cap rights tid dstTcb kind id tables}
      (target : before.Holds caller csId targetThread .threadControlBlock .write tid)
      (found : before.tcb tid = some dstTcb)
      (source : before.Holds caller csId cap kind .grant id)
      (ne : csId ≠ dstTcb.capSpace)
      (ran : ((CapTables.run
        (.deriveChildCrossSpace csId dstTcb.capSpace cap rights 0))
        before.capSpaces).state? = some tables) :
      Effect caller nowNs before (.capGrant targetThread cap rights) none
        { before with capSpaces := tables }
  | retyped {csId untyped targetType count uid region later grant after}
      (holds : before.Holds caller csId untyped .untypedMemory .write uid)
      (present : before.untyped.get? uid = some region)
      (reserved : UntypedMemory.retype targetType count region = .ok grant later)
      (created : Creates csId targetType grant (before.putUntyped uid later) after)
      (newPages : NewPages (before.putUntyped uid later) after) :
      Effect caller nowNs before (.retype untyped targetType count) none after
  | mapped {csId pageTable frame vaddr perms asId held phys space later}
      (holds : before.Holds caller csId pageTable .pageTable .write asId)
      (frameHeld : before.capSpaces.lookup { space := csId, cap := frame } = some held)
      (allowed : held.allows (frameRights perms) = true)
      (resolved : before.framePhys held = .ok phys)
      (present : before.addrSpaces.get? asId = some space)
      (added : AddressSpace.map vaddr phys pageSize perms space = .ok () later)
      (used : Nat) :
      Effect caller nowNs before (.map pageTable frame vaddr perms) none
        { before.putAddrSpace asId later with mapPoolUsed := used }
  | rolledBack {csId pageTable frame vaddr perms asId held phys space later final}
      (holds : before.Holds caller csId pageTable .pageTable .write asId)
      (frameHeld : before.capSpaces.lookup { space := csId, cap := frame } = some held)
      (allowed : held.allows (frameRights perms) = true)
      (resolved : before.framePhys held = .ok phys)
      (present : before.addrSpaces.get? asId = some space)
      (added : AddressSpace.map vaddr phys pageSize perms space = .ok () later)
      (removed : (AddressSpace.unmap vaddr later).state? = some final) :
      Effect caller nowNs before (.map pageTable frame vaddr perms) none
        (before.putAddrSpace asId final)
  | sent {csId endpoint msg eid ep receiver rest}
      (holds : before.Holds caller csId endpoint .endpoint .write eid)
      (present : before.endpoints.get? eid = some ep)
      (waiting : ep.receivers = receiver :: rest) :
      Effect caller nowNs before (.send endpoint msg) none
        ((before.putEndpoint eid
          { ep with receivers := rest, pendingDelivery := none }).handOver
            receiver.thread caller msg nowNs)
  | called {csId endpoint msg eid ep receiver rest after next}
      (holds : before.Holds caller csId endpoint .endpoint .write eid)
      (present : before.endpoints.get? eid = some ep)
      (waiting : ep.receivers = receiver :: rest)
      (admitted : (before.sched.entity receiver.thread).isSome)
      (final : after =
        ((before.putEndpoint eid
          { ep with receivers := rest, pendingDelivery := none }).handOver
            receiver.thread caller msg nowNs).block caller .blockedOnReply)
      (chosen : next = none ∨ next = some receiver.thread ∨
        next = after.sched.pickNext) :
      Effect caller nowNs before (.call endpoint msg) next after
  | callStuck {csId endpoint msg eid ep receiver rest}
      (holds : before.Holds caller csId endpoint .endpoint .write eid)
      (present : before.endpoints.get? eid = some ep)
      (waiting : ep.receivers = receiver :: rest)
      (absent : before.sched.entity receiver.thread = none) :
      Effect caller nowNs before (.call endpoint msg) none
        ((before.putEndpoint eid
          { ep with receivers := rest, pendingDelivery := none }).handOver
            receiver.thread caller msg nowNs)
  | queued {csId endpoint msg eid ep after next} {isCall : Bool} {op : SyscallOp}
      (isSend : op = if isCall then .call endpoint msg else .send endpoint msg)
      (holds : before.Holds caller csId endpoint .endpoint .write eid)
      (present : before.endpoints.get? eid = some ep)
      (noReceiver : ep.receivers = [])
      (final : after =
        (before.putEndpoint eid
          { ep with senders := ep.senders ++ [{ thread := caller, msg }] }).block
            caller (if isCall then .blockedOnReply else .blockedOnSend))
      (chosen : next = none ∨ next = after.sched.pickNext) :
      Effect caller nowNs before op next after
  | received {csId endpoint eid ep sender rest}
      (holds : before.Holds caller csId endpoint .endpoint .read eid)
      (present : before.endpoints.get? eid = some ep)
      (waiting : ep.senders = sender :: rest) :
      Effect caller nowNs before (.recv endpoint) none
        ((before.putEndpoint eid { ep with senders := rest }).release sender.thread nowNs)
  | awaiting {csId endpoint eid ep after next}
      (holds : before.Holds caller csId endpoint .endpoint .read eid)
      (present : before.endpoints.get? eid = some ep)
      (noSender : ep.senders = [])
      (final : after =
        (before.putEndpoint eid
          { ep with
            receivers := ep.receivers ++ [{ thread := caller, msg := .new 0 }] }).block
              caller .blockedOnRecv)
      (chosen : next = none ∨ next = after.sched.pickNext) :
      Effect caller nowNs before (.recv endpoint) next after
  | replied {toThread msg next}
      (ne : caller ≠ toThread)
      (awaits : before.isBlockedOnReply toThread = true)
      (admitted : (before.sched.entity toThread).isSome)
      (chosen : next = none ∨ next = some toThread) :
      Effect caller nowNs before (.reply toThread msg) next
        { before.storeReply toThread msg with
          sched := (before.sched.setReady toThread nowNs).setReady caller nowNs }
  | replyStuck {toThread msg}
      (ne : caller ≠ toThread)
      (awaits : before.isBlockedOnReply toThread = true)
      (absent : before.sched.entity toThread = none) :
      Effect caller nowNs before (.reply toThread msg) none
        (before.storeReply toThread msg)
  | signalled {csId notification bits nid notif}
      (holds : before.Holds caller csId notification .notification .write nid)
      (present : before.notifications.get? nid = some notif) :
      Effect caller nowNs before (.signal notification bits) none
        { before.putNotification nid
            { signalWord := notif.signalWord ||| bits, waiters := [] } with
          sched := before.sched.setAllReady nowNs notif.waiters }
  | waiting {csId notification nid notif}
      (holds : before.Holds caller csId notification .notification .read nid)
      (present : before.notifications.get? nid = some notif) :
      Effect caller nowNs before (.wait notification) none
        { before.putNotification nid
            { signalWord := 0, waiters := notif.waiters ++ [caller] } with
          sched := (before.sched.account nowNs).setBlocked caller }
  | taken {csId notification nid notif} {op : SyscallOp}
      (isRead : op = .wait notification ∨ op = .poll notification)
      (holds : before.Holds caller csId notification .notification .read nid)
      (present : before.notifications.get? nid = some notif) :
      Effect caller nowNs before op none
        (before.putNotification nid { notif with signalWord := 0 })
  | bound {csId mmio notification handler mid descriptor nid}
      (region : before.Holds caller csId mmio .mmioRegion .write mid)
      (found : before.mmioRegion mid = some descriptor)
      (target : before.Holds caller csId notification .notification .write nid) :
      Effect caller nowNs before (.irqBind mmio notification handler) none
        (before.bindIrq descriptor.irq nid).2

end KernelState

end Simurgh
