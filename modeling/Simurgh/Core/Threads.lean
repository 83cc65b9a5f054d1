import Simurgh.Core.Run

/-!
# Threads and the queues they wait in

What each update does to the states of the threads, and which threads a syscall
takes out of a queue.
-/

namespace Simurgh

namespace KernelState

/-! ## Thread states -/

def threadState (state : KernelState) (tid : ThreadId) : Option ThreadState :=
  (state.tcb tid).map Tcb.state

theorem threadState_updateTcb (id : ThreadId) (update : Tcb → Tcb) (state : KernelState)
    (other : ThreadId) :
    (state.updateTcb id update).threadState other =
      if other = id then (state.tcb other).map fun tcb => (update tcb).state
      else state.threadState other := by
  unfold threadState
  rw [tcb_updateTcb]
  by_cases same : other = id
  · simp [same, Function.comp_def]
  · simp [same]

theorem threadState_block (thread : ThreadId) (blocked : ThreadState)
    (state : KernelState) (other : ThreadId) :
    (state.block thread blocked).threadState other =
      if other = thread then (state.threadState other).map fun _ => blocked
      else state.threadState other := by
  refine (threadState_updateTcb ..).trans ?_
  simp [threadState, Function.comp_def]

theorem threadState_handOver (receiver sender : ThreadId) (msg : SmallMessage)
    (nowNs : Nat) (state : KernelState) (other : ThreadId) :
    (state.handOver receiver sender msg nowNs).threadState other =
      if other = receiver then (state.threadState other).map fun _ => .runnable
      else state.threadState other := by
  refine (threadState_updateTcb ..).trans ?_
  simp [threadState, Function.comp_def]

theorem threadState_storeReply (toThread : ThreadId) (msg : SmallMessage)
    (state : KernelState) (other : ThreadId) :
    (state.storeReply toThread msg).threadState other =
      if other = toThread then (state.threadState other).map fun _ => .runnable
      else state.threadState other := by
  refine (threadState_updateTcb ..).trans ?_
  simp [threadState, Function.comp_def]

theorem threadState_release (sender : ThreadId) (nowNs : Nat) (state : KernelState)
    (other : ThreadId) :
    (state.release sender nowNs).threadState other =
      if other = sender then
        (state.threadState other).map fun before =>
          if before = .blockedOnReply then .blockedOnReply else .runnable
      else state.threadState other := by
  refine (threadState_updateTcb ..).trans ?_
  by_cases same : other = sender
  · cases present : state.tcb other with
    | none => simp [threadState, present]
    | some tcb =>
        by_cases awaits : tcb.state = .blockedOnReply
        · simp [threadState, present, awaits]
        · simp [threadState, present, awaits]
  · simp [same]

/-- New threads were never started. -/
theorem threadState_of_grows {before after : KernelState}
    (grows : before.tcbs.GrowsBy
      (fun id tcb => ∃ capSpace addrSpace, tcb = .newInactive id capSpace addrSpace)
      after.tcbs) (tid : ThreadId) :
    after.threadState tid = before.threadState tid ∨
      before.threadState tid = none ∧ after.threadState tid = some .inactive := by
  unfold KernelState.threadState tcb
  rcases grows tid with same | ⟨vacant, tcb, present, capSpace, addrSpace, rfl⟩
  · exact Or.inl (by rw [same])
  · exact Or.inr ⟨by rw [vacant]; rfl, by rw [present]; rfl⟩

/-- The creation loop adds threads that were never started. -/
theorem Creates.threadState {csId : CapSpaceId} {targetType : KernelObjectType}
    {grant : RetypeGrant} {before after : KernelState}
    (creates : Creates csId targetType grant before after) (tid : ThreadId) :
    after.threadState tid = before.threadState tid ∨
      before.threadState tid = none ∧ after.threadState tid = some .inactive :=
  threadState_of_grows creates.tcbs tid

/-! ## Waking -/

/-- The endpoint that a capability of the caller names. -/
def endpointAt (state : KernelState) (caller : ThreadId) (endpoint : CapId)
    (needed : CapabilityRights) : Option KEndpoint :=
  match state.resolve caller endpoint .endpoint needed with
  | .ok cap => state.endpoints.get? cap.object.id
  | .error _ => none

/-- The thread that `Send`, `Call` or `Recv` takes out of the endpoint's queue. -/
def partner (state : KernelState) (caller : ThreadId) : SyscallOp → Option ThreadId
  | .send endpoint _ | .call endpoint _ =>
      (state.endpointAt caller endpoint .write).bind Endpoint.blockedReceiver
  | .recv endpoint =>
      (state.endpointAt caller endpoint .read).bind fun ep =>
        ep.senders.head?.map Waiter.thread
  | _ => none

/-- The threads that a syscall takes out of a queue and makes ready. -/
def woken (state : KernelState) (caller : ThreadId) : SyscallOp → List ThreadId
  | .signal notification _ =>
      match state.resolve caller notification .notification .write with
      | .ok cap => ((state.notifications.get? cap.object.id).map Notification.waiters).getD []
      | .error _ => []
  | op => (state.partner caller op).toList

section Woken

variable {state : KernelState} {caller : ThreadId} {csId : CapSpaceId} {cap : CapId}

theorem lookupCap_of_held {held : Capability}
    (space : state.callerCapSpace caller = .ok csId)
    (found : state.capSpaces.lookup { space := csId, cap } = some held) :
    state.lookupCap caller cap = .ok held := by
  obtain ⟨table, present, stored⟩ := CapTables.exists_of_lookup found
  have here : state.capSpace csId = some table := present
  unfold lookupCap
  rw [space]
  simp only [bind, Except.bind, here, stored]

theorem Holds.resolve {kind : KernelObjectKind} {needed : CapabilityRights}
    {id : ObjectId} (holds : state.Holds caller csId cap kind needed id) :
    ∃ held, state.resolve caller cap kind needed = .ok held ∧ held.object.id = id := by
  obtain ⟨held, found, object, allowed⟩ := holds.held
  refine ⟨held, ?_, by rw [object]⟩
  unfold KernelState.resolve
  rw [lookupCap_of_held holds.space found]
  simp [bind, Except.bind, object, allowed]

theorem Holds.endpointAt {needed : CapabilityRights} {eid : EndpointId}
    (holds : state.Holds caller csId cap .endpoint needed eid) :
    state.endpointAt caller cap needed = state.endpoints.get? eid := by
  obtain ⟨held, resolved, rfl⟩ := holds.resolve
  rw [KernelState.endpointAt, resolved]

/-- The first receiver in the queue is the one that `Send` and `Call` wake. -/
theorem Holds.partner_receiver {eid : EndpointId} {ep : KEndpoint}
    {receiver : Waiter} {rest : List Waiter} {msg : SmallMessage}
    (holds : state.Holds caller csId cap .endpoint .write eid)
    (present : state.endpoints.get? eid = some ep)
    (waiting : ep.receivers = receiver :: rest) :
    state.partner caller (.send cap msg) = some receiver.thread ∧
      state.partner caller (.call cap msg) = some receiver.thread := by
  simp [partner, holds.endpointAt, present, Endpoint.blockedReceiver, waiting]

theorem Holds.partner_sender {eid : EndpointId} {ep : KEndpoint} {sender : Waiter}
    {rest : List Waiter} (holds : state.Holds caller csId cap .endpoint .read eid)
    (present : state.endpoints.get? eid = some ep)
    (waiting : ep.senders = sender :: rest) :
    state.partner caller (.recv cap) = some sender.thread := by
  simp [partner, holds.endpointAt, present, waiting]

theorem Holds.receiver_mem_woken {eid : EndpointId} {ep : KEndpoint}
    {receiver : Waiter} {rest : List Waiter} {msg : SmallMessage}
    (holds : state.Holds caller csId cap .endpoint .write eid)
    (present : state.endpoints.get? eid = some ep)
    (waiting : ep.receivers = receiver :: rest) :
    receiver.thread ∈ state.woken caller (.send cap msg) ∧
      receiver.thread ∈ state.woken caller (.call cap msg) := by
  have partners := @Holds.partner_receiver _ _ _ _ _ _ _ _ msg holds present waiting
  simp [woken, partners.1, partners.2]

theorem Holds.sender_mem_woken {eid : EndpointId} {ep : KEndpoint} {sender : Waiter}
    {rest : List Waiter} (holds : state.Holds caller csId cap .endpoint .read eid)
    (present : state.endpoints.get? eid = some ep)
    (waiting : ep.senders = sender :: rest) :
    sender.thread ∈ state.woken caller (.recv cap) := by
  simp [woken, holds.partner_sender present waiting]

theorem Holds.waiters_woken {nid : NotificationId} {notif : KNotification} {bits : Nat}
    (holds : state.Holds caller csId cap .notification .write nid)
    (present : state.notifications.get? nid = some notif) :
    state.woken caller (.signal cap bits) = notif.waiters := by
  obtain ⟨held, resolved, rfl⟩ := holds.resolve
  simp [woken, resolved, present]

end Woken

end KernelState

end Simurgh
