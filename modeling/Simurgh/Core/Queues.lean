import Simurgh.Core.Termination

/-!
# Threads in the endpoint queues

A thread that waits for a partner sits in one queue of one endpoint, and its control
block says in which kind.  This goes well as long as nothing makes a queued thread
runnable but the partner that takes it out of its queue.
-/

namespace Simurgh

/-! ## Queued threads and their states -/

/-- Each thread is queued once, to send or to receive, and its state says so. -/
structure Placed (sending receiving : List ThreadId)
    (threads : ThreadId → Option ThreadState) : Prop where
  once : (sending ++ receiving).Nodup
  senders : ∀ tid ∈ sending,
    threads tid = some .blockedOnSend ∨ threads tid = some .blockedOnReply
  receivers : ∀ tid ∈ receiving, threads tid = some .blockedOnRecv

namespace Placed

variable {sending receiving : List ThreadId} {tid : ThreadId}
variable {threads later : ThreadId → Option ThreadState}

/-- The order within the queues does not matter. -/
theorem perm (placed : Placed sending receiving threads) {sending' receiving' : List ThreadId}
    (sends : sending.Perm sending') (recvs : receiving.Perm receiving') :
    Placed sending' receiving' threads where
  once := (sends.append recvs).nodup_iff.1 placed.once
  senders := fun tid member => placed.senders tid (sends.mem_iff.2 member)
  receivers := fun tid member => placed.receivers tid (recvs.mem_iff.2 member)

/-- Threads outside the queues may change. -/
theorem of_threads (placed : Placed sending receiving threads)
    (same : ∀ tid ∈ sending ++ receiving, later tid = threads tid) :
    Placed sending receiving later where
  once := placed.once
  senders := by
    intro tid member
    rw [same tid (List.mem_append_left _ member)]
    exact placed.senders tid member
  receivers := by
    intro tid member
    rw [same tid (List.mem_append_right _ member)]
    exact placed.receivers tid member

/-- A thread in another state is in no queue. -/
theorem not_mem (placed : Placed sending receiving threads) {state : ThreadState}
    (present : threads tid = some state) (awake : state.awaitsIpc = false) :
    tid ∉ sending ++ receiving := by
  intro member
  rcases List.mem_append.1 member with sends | receives
  · rcases placed.senders tid sends with blocked | blocked
    · rw [present, Option.some.injEq] at blocked
      simp [blocked, ThreadState.awaitsIpc] at awake
    · rw [present, Option.some.injEq] at blocked
      simp [blocked, ThreadState.awaitsIpc] at awake
  · have blocked := placed.receivers tid receives
    rw [present, Option.some.injEq] at blocked
    simp [blocked, ThreadState.awaitsIpc] at awake

theorem sender_leaves (placed : Placed (tid :: sending) receiving threads)
    (others : ∀ other, other ≠ tid → later other = threads other) :
    Placed sending receiving later ∧ tid ∉ sending ++ receiving := by
  obtain ⟨gone, once⟩ := List.nodup_cons.1 placed.once
  have ne : ∀ other ∈ sending ++ receiving, other ≠ tid :=
    fun other member same => gone (same ▸ member)
  have left : Placed sending receiving threads := {
    once
    senders := fun other member => placed.senders other (List.mem_cons_of_mem _ member)
    receivers := placed.receivers }
  exact ⟨left.of_threads fun other member => others other (ne other member), gone⟩

theorem receiver_leaves (placed : Placed sending (tid :: receiving) threads)
    (others : ∀ other, other ≠ tid → later other = threads other) :
    Placed sending receiving later ∧ tid ∉ sending ++ receiving := by
  have once : (tid :: (sending ++ receiving)).Nodup :=
    List.perm_middle.nodup_iff.1 placed.once
  obtain ⟨gone, once⟩ := List.nodup_cons.1 once
  have ne : ∀ other ∈ sending ++ receiving, other ≠ tid :=
    fun other member same => gone (same ▸ member)
  have left : Placed sending receiving threads := {
    once
    senders := placed.senders
    receivers := fun other member => placed.receivers other (List.mem_cons_of_mem _ member) }
  exact ⟨left.of_threads fun other member => others other (ne other member), gone⟩

theorem sender_enters (placed : Placed sending receiving threads)
    (fresh : tid ∉ sending ++ receiving)
    (others : ∀ other, other ≠ tid → later other = threads other)
    (blocked : later tid = some .blockedOnSend ∨ later tid = some .blockedOnReply) :
    Placed (tid :: sending) receiving later := by
  have kept : Placed sending receiving later :=
    placed.of_threads fun other member => others other fun same => fresh (same ▸ member)
  refine ⟨List.nodup_cons.2 ⟨fresh, kept.once⟩, fun other member => ?_, kept.receivers⟩
  rcases List.mem_cons.1 member with rfl | old
  · exact blocked
  · exact kept.senders other old

theorem receiver_enters (placed : Placed sending receiving threads)
    (fresh : tid ∉ sending ++ receiving)
    (others : ∀ other, other ≠ tid → later other = threads other)
    (blocked : later tid = some .blockedOnRecv) :
    Placed sending (tid :: receiving) later := by
  have kept : Placed sending receiving later :=
    placed.of_threads fun other member => others other fun same => fresh (same ▸ member)
  refine ⟨?_, kept.senders, fun other member => ?_⟩
  · exact List.perm_middle.nodup_iff.2 (List.nodup_cons.2 ⟨fresh, kept.once⟩)
  · rcases List.mem_cons.1 member with rfl | old
    · exact blocked
    · exact kept.receivers other old

end Placed

namespace KernelState

/-! ## The queues of a kernel state -/

/-- The threads queued to send, over all endpoints. -/
def sending (state : KernelState) : List ThreadId :=
  state.endpoints.gather fun endpoint => endpoint.senders.map Waiter.thread

/-- The threads queued to receive, over all endpoints. -/
def receiving (state : KernelState) : List ThreadId :=
  state.endpoints.gather fun endpoint => endpoint.receivers.map Waiter.thread

/-- Each thread occurs at most once in all endpoint queues together, in a receive
queue only if it is `BlockedOnRecv`, and in a send queue only if it is
`BlockedOnSend` or `BlockedOnReply`. -/
def QueuesConsistent (state : KernelState) : Prop :=
  Placed state.sending state.receiving state.threadState

section Queues

variable {state later : KernelState} {eid : EndpointId} {ep : KEndpoint}

theorem sending_congr (same : later.endpoints = state.endpoints) :
    later.sending = state.sending := by
  rw [sending, same]
  rfl

theorem receiving_congr (same : later.endpoints = state.endpoints) :
    later.receiving = state.receiving := by
  rw [receiving, same]
  rfl

/-- Blocking a thread leaves the queues alone. -/
theorem queues_block (tid : ThreadId) (blocked : ThreadState) (state : KernelState) :
    (state.block tid blocked).sending ++ (state.block tid blocked).receiving =
      state.sending ++ state.receiving := by
  have endpoints : (state.block tid blocked).endpoints = state.endpoints :=
    endpoints_updateTcb ..
  rw [sending_congr endpoints, receiving_congr endpoints]

theorem queued_iff {tid : ThreadId} :
    state.queued tid = true ↔ tid ∈ state.sending ++ state.receiving := by
  rw [← Bool.not_eq_false, queued_eq_false_iff, List.mem_append, sending, receiving,
    Slab.mem_gather, Slab.mem_gather]
  simp only [List.mem_append, List.mem_map]
  constructor
  · intro held
    by_contra outside
    refine held fun eid ep present waiter member same => outside ?_
    rcases member with sends | receives
    · exact Or.inl ⟨eid, ep, present, waiter, sends, same⟩
    · exact Or.inr ⟨eid, ep, present, waiter, receives, same⟩
  · rintro (⟨eid, ep, present, waiter, member, same⟩ | ⟨eid, ep, present, waiter, member, same⟩)
      absent
    · exact absent eid ep present waiter (Or.inl member) same
    · exact absent eid ep present waiter (Or.inr member) same

/-- Storing an endpoint with the same senders. -/
theorem sending_putEndpoint_same (present : state.endpoints.get? eid = some ep)
    {endpoint : KEndpoint} (same : endpoint.senders = ep.senders) :
    (state.putEndpoint eid endpoint).sending.Perm state.sending := by
  obtain ⟨others, before, after⟩ := Slab.gather_put present
  refine (after endpoint).trans ?_
  rw [same]
  exact before.symm

theorem receiving_putEndpoint_same (present : state.endpoints.get? eid = some ep)
    {endpoint : KEndpoint} (same : endpoint.receivers = ep.receivers) :
    (state.putEndpoint eid endpoint).receiving.Perm state.receiving := by
  obtain ⟨others, before, after⟩ := Slab.gather_put present
  refine (after endpoint).trans ?_
  rw [same]
  exact before.symm

/-- Storing an endpoint with one sender less. -/
theorem sending_putEndpoint_rest (present : state.endpoints.get? eid = some ep)
    {endpoint : KEndpoint} {sender : Waiter} (waiting : ep.senders = sender :: endpoint.senders) :
    state.sending.Perm (sender.thread :: (state.putEndpoint eid endpoint).sending) := by
  obtain ⟨others, before, after⟩ := Slab.gather_put present
  refine before.trans ?_
  rw [waiting, List.map_cons, List.cons_append]
  exact (after endpoint).symm.cons sender.thread

theorem receiving_putEndpoint_rest (present : state.endpoints.get? eid = some ep)
    {endpoint : KEndpoint} {receiver : Waiter}
    (waiting : ep.receivers = receiver :: endpoint.receivers) :
    state.receiving.Perm (receiver.thread :: (state.putEndpoint eid endpoint).receiving) := by
  obtain ⟨others, before, after⟩ := Slab.gather_put present
  refine before.trans ?_
  rw [waiting, List.map_cons, List.cons_append]
  exact (after endpoint).symm.cons receiver.thread

/-- Storing an endpoint with one sender more. -/
theorem sending_putEndpoint_push (present : state.endpoints.get? eid = some ep)
    {endpoint : KEndpoint} {sender : Waiter} (pushed : endpoint.senders = ep.senders ++ [sender]) :
    (state.putEndpoint eid endpoint).sending.Perm (sender.thread :: state.sending) := by
  obtain ⟨others, before, after⟩ := Slab.gather_put present
  refine (after endpoint).trans ?_
  rw [pushed, List.map_append, List.append_assoc]
  exact List.perm_middle.trans (before.symm.cons sender.thread)

theorem receiving_putEndpoint_push (present : state.endpoints.get? eid = some ep)
    {endpoint : KEndpoint} {receiver : Waiter}
    (pushed : endpoint.receivers = ep.receivers ++ [receiver]) :
    (state.putEndpoint eid endpoint).receiving.Perm (receiver.thread :: state.receiving) := by
  obtain ⟨others, before, after⟩ := Slab.gather_put present
  refine (after endpoint).trans ?_
  rw [pushed, List.map_append, List.append_assoc]
  exact List.perm_middle.trans (before.symm.cons receiver.thread)

end Queues

/-! ## Parked threads -/

/-- The queues are consistent, and no queued thread is schedulable. -/
structure Parked (state : KernelState) : Prop where
  placed : state.QueuesConsistent
  asleep : Asleep (fun tid => tid ∈ state.sending ++ state.receiving) state.sched

namespace Parked

variable {state later : KernelState} {tid : ThreadId} {nowNs : Nat}

/-- The running thread is in no queue. -/
theorem running_unqueued (parked : state.Parked) (runs : state.sched.running = some tid) :
    tid ∉ state.sending ++ state.receiving :=
  parked.asleep.awake (parked.asleep.running tid runs)

/-- Nothing that the queues depend on has changed. -/
theorem congr (parked : state.Parked) (endpoints : later.endpoints = state.endpoints)
    (threads : ∀ tid ∈ state.sending ++ state.receiving,
      later.threadState tid = state.threadState tid)
    (asleep : Asleep (fun tid => tid ∈ state.sending ++ state.receiving) later.sched) :
    later.Parked where
  placed := by
    unfold QueuesConsistent
    rw [sending_congr endpoints, receiving_congr endpoints]
    exact parked.placed.of_threads threads
  asleep := by
    rw [sending_congr endpoints, receiving_congr endpoints]
    exact asleep

theorem withSched (parked : state.Parked) {sched : KScheduler}
    (asleep : Asleep (fun tid => tid ∈ state.sending ++ state.receiving) sched) :
    Parked { state with sched } :=
  parked.congr rfl (fun _ _ => rfl) asleep

/-- A thread outside the queues blocks. -/
theorem block (parked : state.Parked) (fresh : tid ∉ state.sending ++ state.receiving)
    (blocked : ThreadState) : (state.block tid blocked).Parked := by
  refine parked.congr (endpoints_updateTcb ..) (fun other member => ?_) ?_
  · have ne : other ≠ tid := fun same => fresh (same ▸ member)
    rw [threadState_block, if_neg ne]
  · exact parked.asleep.setBlocked tid fun _ _ waiting => waiting

/-- A thread has left its queue and is ready. -/
private theorem leaves (parked : state.Parked)
    (left : (state.sending ++ state.receiving).Perm (tid :: (later.sending ++ later.receiving)))
    (placed : later.QueuesConsistent) (ready : later.sched = state.sched.setReady tid nowNs) :
    later.Parked := by
  refine ⟨placed, ?_⟩
  rw [ready]
  have once := left.nodup_iff.1 parked.placed.once
  refine parked.asleep.setReady tid nowNs fun other member => ⟨?_, fun same => ?_⟩
  · exact left.mem_iff.2 (List.mem_cons_of_mem _ member)
  · exact (List.nodup_cons.1 once).1 (same ▸ member)

/-- A thread has joined a queue and blocks. -/
private theorem joins (parked : state.Parked)
    (joined : (later.sending ++ later.receiving).Perm (tid :: (state.sending ++ state.receiving)))
    (placed : later.QueuesConsistent) (blocks : later.sched = state.sched.setBlocked tid) :
    later.Parked := by
  refine ⟨placed, ?_⟩
  rw [blocks]
  refine parked.asleep.setBlocked tid fun other ne member => ?_
  exact (List.mem_cons.1 (joined.mem_iff.1 member)).resolve_left ne

/-- The first receiver of an endpoint gets a message. -/
theorem handOver (parked : state.Parked) {eid : EndpointId} {ep : KEndpoint}
    {receiver : Waiter} {rest : List Waiter} (present : state.endpoints.get? eid = some ep)
    (waiting : ep.receivers = receiver :: rest) (sender : ThreadId) (msg : SmallMessage) :
    let after := (state.putEndpoint eid
      { ep with receivers := rest, pendingDelivery := none }).handOver
        receiver.thread sender msg nowNs
    after.Parked ∧ receiver.thread ∉ after.sending ++ after.receiving := by
  intro after
  let endpoint : KEndpoint := { ep with receivers := rest, pendingDelivery := none }
  let put := state.putEndpoint eid endpoint
  have sameSenders : endpoint.senders = ep.senders := rfl
  have endpoints : after.endpoints = put.endpoints := endpoints_updateTcb ..
  have sends : state.sending.Perm after.sending := by
    rw [sending_congr endpoints]
    exact (sending_putEndpoint_same present sameSenders).symm
  have recvs : state.receiving.Perm (receiver.thread :: after.receiving) := by
    rw [receiving_congr endpoints]
    exact receiving_putEndpoint_rest present waiting
  have others : ∀ other, other ≠ receiver.thread →
      after.threadState other = state.threadState other := by
    intro other ne
    exact (threadState_handOver ..).trans (if_neg ne)
  obtain ⟨placed, gone⟩ := (parked.placed.perm sends recvs).receiver_leaves others
  exact ⟨parked.leaves ((sends.append recvs).trans List.perm_middle) placed rfl, gone⟩

/-- The first sender of an endpoint is released. -/
theorem release (parked : state.Parked) {eid : EndpointId} {ep : KEndpoint}
    {sender : Waiter} {rest : List Waiter} (present : state.endpoints.get? eid = some ep)
    (waiting : ep.senders = sender :: rest) :
    ((state.putEndpoint eid { ep with senders := rest }).release sender.thread nowNs).Parked := by
  let endpoint : KEndpoint := { ep with senders := rest }
  let put := state.putEndpoint eid endpoint
  have sameReceivers : endpoint.receivers = ep.receivers := rfl
  let after := put.release sender.thread nowNs
  have endpoints : after.endpoints = put.endpoints := endpoints_updateTcb ..
  have sends : state.sending.Perm (sender.thread :: after.sending) := by
    rw [sending_congr endpoints]
    exact sending_putEndpoint_rest present waiting
  have recvs : state.receiving.Perm after.receiving := by
    rw [receiving_congr endpoints]
    exact (receiving_putEndpoint_same present sameReceivers).symm
  have others : ∀ other, other ≠ sender.thread →
      after.threadState other = state.threadState other := by
    intro other ne
    exact (threadState_release ..).trans (if_neg ne)
  obtain ⟨placed, _⟩ := (parked.placed.perm sends recvs).sender_leaves others
  exact parked.leaves (sends.append recvs) placed rfl

/-- The state of a thread that has just blocked. -/
private theorem blocked_threadState {tcb : Tcb} (there : state.tcb tid = some tcb)
    (endpoint : KEndpoint) (eid : EndpointId) (blocked : ThreadState) :
    let after := (state.putEndpoint eid endpoint).block tid blocked
    after.threadState tid = some blocked ∧
      ∀ other, other ≠ tid → after.threadState other = state.threadState other := by
  intro after
  refine ⟨?_, fun other ne => (threadState_block ..).trans (if_neg ne)⟩
  have here : after.threadState tid = (state.threadState tid).map fun _ => blocked :=
    (threadState_block ..).trans (if_pos rfl)
  rw [here, threadState, there]
  rfl

/-- A thread outside the queues joins the senders of an endpoint. -/
theorem joinSenders (parked : state.Parked) (fresh : tid ∉ state.sending ++ state.receiving)
    {tcb : Tcb} (there : state.tcb tid = some tcb) {eid : EndpointId} {ep : KEndpoint}
    (present : state.endpoints.get? eid = some ep) (msg : SmallMessage)
    {blocked : ThreadState} (isSend : blocked = .blockedOnSend ∨ blocked = .blockedOnReply) :
    ((state.putEndpoint eid
      { ep with senders := ep.senders ++ [{ thread := tid, msg }] }).block tid blocked).Parked := by
  let waiter : Waiter := { thread := tid, msg }
  let endpoint : KEndpoint := { ep with senders := ep.senders ++ [waiter] }
  let put := state.putEndpoint eid endpoint
  let after := put.block tid blocked
  have endpoints : after.endpoints = put.endpoints := endpoints_updateTcb ..
  have pushed : endpoint.senders = ep.senders ++ [waiter] := rfl
  have sends : after.sending.Perm (tid :: state.sending) := by
    rw [sending_congr endpoints]
    exact sending_putEndpoint_push present pushed
  have recvs : after.receiving.Perm state.receiving := by
    rw [receiving_congr endpoints]
    exact receiving_putEndpoint_same present rfl
  obtain ⟨here, others⟩ := blocked_threadState there endpoint eid blocked
  have waits : after.threadState tid = some .blockedOnSend ∨
      after.threadState tid = some .blockedOnReply := by
    rcases isSend with rfl | rfl
    · exact Or.inl here
    · exact Or.inr here
  have entered := parked.placed.sender_enters fresh others waits
  exact parked.joins (sends.append recvs) (entered.perm sends.symm recvs.symm) rfl

/-- A thread outside the queues joins the receivers of an endpoint. -/
theorem joinReceivers (parked : state.Parked) (fresh : tid ∉ state.sending ++ state.receiving)
    {tcb : Tcb} (there : state.tcb tid = some tcb) {eid : EndpointId} {ep : KEndpoint}
    (present : state.endpoints.get? eid = some ep) (msg : SmallMessage) :
    ((state.putEndpoint eid
      { ep with receivers := ep.receivers ++ [{ thread := tid, msg }] }).block tid
        .blockedOnRecv).Parked := by
  let waiter : Waiter := { thread := tid, msg }
  let endpoint : KEndpoint := { ep with receivers := ep.receivers ++ [waiter] }
  let put := state.putEndpoint eid endpoint
  let after := put.block tid .blockedOnRecv
  have endpoints : after.endpoints = put.endpoints := endpoints_updateTcb ..
  have pushed : endpoint.receivers = ep.receivers ++ [waiter] := rfl
  have sends : after.sending.Perm state.sending := by
    rw [sending_congr endpoints]
    exact sending_putEndpoint_same present rfl
  have recvs : after.receiving.Perm (tid :: state.receiving) := by
    rw [receiving_congr endpoints]
    exact receiving_putEndpoint_push present pushed
  obtain ⟨here, others⟩ := blocked_threadState there endpoint eid .blockedOnRecv
  have entered := parked.placed.receiver_enters fresh others here
  exact parked.joins ((sends.append recvs).trans List.perm_middle)
    (entered.perm sends.symm recvs.symm) rfl

end Parked

/-! ## One step -/

/-- The event makes a queued thread runnable, or kills it, and leaves it queued. -/
def disruptsQueued (state : KernelState) : KernelEvent → Bool
  | .syscall _ (.reply toThread _) _ => state.queued toThread && state.isBlockedOnReply toThread
  | .terminate tid _ => state.queued tid
  | .terminateAndHandoff tid _ _ => state.queued tid
  | _ => false

/-- The event makes the scheduler run a thread that is queued. -/
def wakesQueued (state : KernelState) : KernelEvent → Bool
  | .syscall caller (.signal notification bits) _ =>
      (state.woken caller (.signal notification bits)).any state.queued
  | .terminateAndHandoff _ incoming _ => state.queued incoming
  | _ => false

/-- Syscalls come from the running thread, and only threads that were never started
are started.  Any thread may be killed. -/
def dispatchedOnly (state : KernelState) (event : KernelEvent) : Bool :=
  event.kills.isSome || state.scheduled event

section Step

variable {caller : ThreadId} {nowNs : Nat} {before after : KernelState}
variable {op : SyscallOp} {next : Option ThreadId}

theorem not_queued_iff {tid : ThreadId} :
    before.queued tid = false ↔ tid ∉ before.sending ++ before.receiving := by
  rw [← queued_iff, Bool.not_eq_true]

/-- Storing a reply with a thread outside the queues. -/
theorem Parked.storeReply (parked : before.Parked) {toThread : ThreadId}
    (fresh : toThread ∉ before.sending ++ before.receiving) (msg : SmallMessage) :
    (before.storeReply toThread msg).Parked := by
  refine parked.congr (endpoints_updateTcb ..) (fun other member => ?_) ?_
  · have ne : other ≠ toThread := fun same => fresh (same ▸ member)
    rw [threadState_storeReply, if_neg ne]
  · rw [KernelState.storeReply, sched_updateTcb]
    exact parked.asleep

theorem Parked.ready (parked : before.Parked) {tid : ThreadId}
    (fresh : tid ∉ before.sending ++ before.receiving) :
    Asleep (fun tid => tid ∈ before.sending ++ before.receiving)
      (before.sched.setReady tid nowNs) :=
  parked.asleep.setReady tid nowNs
    fun _ member => ⟨member, fun same => fresh (same ▸ member)⟩

theorem exists_tcb_of_space {csId : CapSpaceId}
    (space : before.callerCapSpace caller = .ok csId) : ∃ tcb, before.tcb caller = some tcb := by
  unfold callerCapSpace at space
  cases present : before.tcb caller with
  | none => simp [present] at space
  | some tcb => exact ⟨tcb, rfl⟩

/-- A syscall of the running thread that makes no queued thread runnable but its
partner.  The thread it names next is in no queue. -/
theorem Effect.parked (effect : Effect caller nowNs before op next after)
    (parked : before.Parked) (runs : before.sched.running = some caller)
    (spared : before.disruptsQueued (.syscall caller op nowNs) = false)
    (asleep : before.wakesQueued (.syscall caller op nowNs) = false) :
    after.Parked ∧ ∀ tid, next = some tid → tid ∉ after.sending ++ after.receiving := by
  have fresh := parked.running_unqueued runs
  have picked : ∀ {later : KernelState}, later.Parked → ∀ tid,
      later.sched.pickNext = some tid → tid ∉ later.sending ++ later.receiving :=
    fun parked tid picked => parked.asleep.pickNext_awake picked
  have blocks : ∀ {later : KernelState}, later.Parked →
      next = none ∨ next = later.sched.pickNext →
      ∀ tid, next = some tid → tid ∉ later.sending ++ later.receiving := by
    rintro later parked (rfl | rfl) tid chosen
    · simp at chosen
    · exact picked parked tid chosen
  have unread : ∀ {later : KernelState}, later.endpoints = before.endpoints →
      later.tcbs = before.tcbs → later.sched = before.sched → later.Parked := by
    intro later endpoints tcbs sched
    refine parked.congr endpoints (fun tid _ => ?_) (sched ▸ parked.asleep)
    rw [threadState, tcb, tcbs]
    rfl
  cases effect with
  | unchanged => exact ⟨parked, by simp⟩
  | yielded =>
      have accounted := parked.withSched (parked.asleep.account nowNs)
      exact ⟨accounted, fun tid chosen => picked accounted tid chosen⟩
  | revoked holds ran => exact ⟨unread rfl rfl rfl, by simp⟩
  | granted target found source ne ran => exact ⟨unread rfl rfl rfl, by simp⟩
  | @retyped csId untyped targetType count uid region later grant after holds present
      reserved created newPages =>
      refine ⟨?_, by simp⟩
      have sends : after.sending = before.sending :=
        created.endpoints.gather fun _ endpoint new => by rw [new]; rfl
      have recvs : after.receiving = before.receiving :=
        created.endpoints.gather fun _ endpoint new => by rw [new]; rfl
      have sched : after.sched = before.sched := by
        rw [created.frame]
        rfl
      refine ⟨?_, ?_⟩
      · unfold QueuesConsistent
        rw [sends, recvs]
        refine parked.placed.of_threads fun tid member => ?_
        rcases created.threadState tid with same | ⟨vacant, _⟩
        · exact same
        · change before.threadState tid = none at vacant
          rcases List.mem_append.1 member with sending | receiving
          · rcases parked.placed.senders tid sending with blocked | blocked
            · simp [vacant] at blocked
            · simp [vacant] at blocked
          · have blocked := parked.placed.receivers tid receiving
            simp [vacant] at blocked
      · rw [sends, recvs, sched]
        exact parked.asleep
  | mapped holds frameHeld allowed resolved present added used =>
      exact ⟨unread rfl rfl rfl, by simp⟩
  | rolledBack holds frameHeld allowed resolved present added removed =>
      exact ⟨unread rfl rfl rfl, by simp⟩
  | sent holds present waiting => exact ⟨(parked.handOver present waiting ..).1, by simp⟩
  | @called csId endpoint msg eid ep receiver rest after next holds present waiting
      admitted final chosen =>
      obtain ⟨handed, gone⟩ := @Parked.handOver _ nowNs parked _ _ _ _ present waiting caller msg
      have stillRuns : ((before.putEndpoint eid
          { ep with receivers := rest, pendingDelivery := none }).handOver
            receiver.thread caller msg nowNs).sched.running = some caller :=
        (Scheduler.running_setReady ..).trans runs
      have blocked := handed.block (handed.running_unqueued stillRuns) .blockedOnReply
      rw [← queues_block caller .blockedOnReply] at gone
      rw [← final] at blocked gone
      refine ⟨blocked, fun tid same => ?_⟩
      rcases chosen with rfl | rfl | rfl
      · simp at same
      · obtain rfl := Option.some.inj same
        exact gone
      · exact picked blocked tid same
  | callStuck holds present waiting absent =>
      exact ⟨(parked.handOver present waiting ..).1, by simp⟩
  | @queued csId endpoint msg eid ep after next isCall op isSend holds present noReceiver
      final chosen =>
      obtain ⟨tcb, there⟩ := exists_tcb_of_space holds.space
      have isSender : (if isCall then ThreadState.blockedOnReply else .blockedOnSend) =
            .blockedOnSend ∨
          (if isCall then ThreadState.blockedOnReply else .blockedOnSend) =
            .blockedOnReply := by
        cases isCall with
        | true => exact Or.inr rfl
        | false => exact Or.inl rfl
      have joined := parked.joinSenders fresh there present msg isSender
      rw [← final] at joined
      exact ⟨joined, blocks joined chosen⟩
  | received holds present waiting => exact ⟨parked.release present waiting, by simp⟩
  | awaiting holds present noSender final chosen =>
      obtain ⟨tcb, there⟩ := exists_tcb_of_space holds.space
      have joined := parked.joinReceivers fresh there present (.new 0)
      rw [← final] at joined
      exact ⟨joined, blocks joined chosen⟩
  | @replied toThread msg next ne awaits admitted chosen =>
      have outside : toThread ∉ before.sending ++ before.receiving := by
        simp only [disruptsQueued, awaits, Bool.and_true] at spared
        exact not_queued_iff.1 spared
      have stored := parked.storeReply outside msg
      have endpoints : (before.storeReply toThread msg).endpoints = before.endpoints :=
        endpoints_updateTcb ..
      have first := @Parked.ready nowNs _ parked _ outside
      have second := first.setReady caller nowNs
        fun other member => ⟨member, fun same => fresh (same ▸ member)⟩
      rw [← sending_congr endpoints, ← receiving_congr endpoints] at second
      refine ⟨stored.withSched second, fun tid same => ?_⟩
      rcases chosen with rfl | rfl
      · simp at same
      · obtain rfl := Option.some.inj same
        change toThread ∉ (before.storeReply toThread msg).sending ++
          (before.storeReply toThread msg).receiving
        rw [sending_congr endpoints, receiving_congr endpoints]
        exact outside
  | @replyStuck toThread msg ne awaits absent =>
      have outside : toThread ∉ before.sending ++ before.receiving := by
        simp only [disruptsQueued, awaits, Bool.and_true] at spared
        exact not_queued_iff.1 spared
      exact ⟨parked.storeReply outside _, by simp⟩
  | @signalled csId notification bits nid notif holds present =>
      refine ⟨parked.congr rfl (fun _ _ => rfl) ?_, by simp⟩
      refine parked.asleep.setAllReady nowNs notif.waiters fun tid member => ?_
      simp only [wakesQueued, holds.waiters_woken present, List.any_eq_false,
        Bool.not_eq_true] at asleep
      exact not_queued_iff.1 (asleep tid member)
  | waiting holds present =>
      refine ⟨parked.congr rfl (fun _ _ => rfl) ?_, by simp⟩
      exact (parked.asleep.account nowNs).setBlocked caller fun _ _ waiting => waiting
  | taken isRead holds present => exact ⟨unread rfl rfl rfl, by simp⟩
  | bound region found target =>
      refine ⟨?_, by simp⟩
      rw [bindIrq_frame]
      exact unread rfl rfl rfl

end Step

/-! ## Steps that leave a queued thread behind -/

/-- The states differ in their schedulers only. -/
def Reschedules (before after : KernelState) : Prop :=
  ∃ sched, after = { before with sched }

theorem Reschedules.trans {before middle after : KernelState}
    (first : Reschedules before middle) (second : Reschedules middle after) :
    Reschedules before after := by
  obtain ⟨_, rfl⟩ := first
  obtain ⟨sched, rfl⟩ := second
  exact ⟨sched, rfl⟩

theorem onSched_reschedules (program : Exec KScheduler SchedError Unit) :
    Exec.Steps Reschedules (onSched program) := by
  intro before after ended
  obtain ⟨sched, _, rfl⟩ := Exec.zoom_state.1 ended
  exact ⟨sched, rfl⟩

/-- A reply that is accepted stores its message, whatever happens then. -/
theorem doReply_stores {caller toThread : ThreadId} {msg : SmallMessage} {nowNs : Nat}
    {before after : KernelState} (ne : caller ≠ toThread)
    (awaits : before.isBlockedOnReply toThread = true)
    (ended : (doReply caller toThread msg nowNs before).state? = some after) :
    Reschedules (before.storeReply toThread msg) after := by
  have distinct : (caller != toThread) = true := by simp [ne]
  simp only [doReply, distinct, Exec.guard, if_true, Exec.pure_bind_run, Exec.get_bind_run,
    awaits, Exec.modify_bind_run] at ended
  have last : Exec.Steps Reschedules (pure (.reschedule (some toThread)) :
      Exec KernelState SyscallError SyscallReturn) :=
    (Exec.Reads.pure _).steps fun state => ⟨state.sched, rfl⟩
  have readied : Exec.Steps Reschedules (onSched (Scheduler.noteReady toThread nowNs) >>=
      fun _ => onSched (Scheduler.noteReady caller nowNs) >>= fun _ =>
        (pure (.reschedule (some toThread)) :
          Exec KernelState SyscallError SyscallReturn)) :=
    (onSched_reschedules _).bind Reschedules.trans fun _ =>
      (onSched_reschedules _).bind Reschedules.trans fun _ => last
  exact readied _ _ ended

/-- A thread that is still queued, in a state that no queued thread may have. -/
theorem not_consistent_of_awake {before after : KernelState} {tid : ThreadId}
    (queued : before.queued tid = true) (same : after.endpoints = before.endpoints)
    {state : ThreadState} (present : after.threadState tid = some state)
    (awake : state.awaitsIpc = false) : ¬ after.QueuesConsistent := by
  intro consistent
  refine consistent.not_mem present awake ?_
  rw [sending_congr same, receiving_congr same]
  exact queued_iff.1 queued

end KernelState

/-! ## Runs -/

namespace Machine

variable {μ : Type} (hal : HalInterface μ)
variable {before after : Machine μ} {event : KernelEvent}

/-- Events that leave the threads in the queues to their partners. -/
def leavesQueued (machine : Machine μ) (event : KernelEvent) : Bool :=
  machine.kernel.dispatchedOnly event && !machine.kernel.disruptsQueued event &&
    !machine.kernel.wakesQueued event

theorem Boots.parked {machine : Machine μ} (boots : machine.Boots) :
    machine.kernel.Parked := by
  obtain ⟨kernel, fromBoot, same⟩ := boots
  have booted := fromBoot.booted
  have empty : kernel.sending ++ kernel.receiving = [] := by
    refine List.eq_nil_iff_forall_not_mem.2 fun tid member => ?_
    have queued := KernelState.queued_iff.2 member
    have unqueued : kernel.queued tid = false := by
      rw [KernelState.queued_eq_false_iff]
      intro eid ep present
      simp [booted.endpoints] at present
    simp [unqueued] at queued
  obtain ⟨noSenders, noReceivers⟩ := List.append_eq_nil_iff.1 empty
  have parked : kernel.Parked := {
    placed := by
      unfold KernelState.QueuesConsistent
      rw [noSenders, noReceivers]
      exact ⟨List.nodup_nil, by simp, by simp⟩
    asleep := by
      rw [empty]
      exact ⟨by simp, by simp [booted.idle], booted.threadsMatch⟩ }
  rcases same with rfl | ⟨base, len, installed⟩
  · exact parked
  · rw [installed]
    exact parked.congr rfl (fun _ _ => rfl) parked.asleep

/-- A thread outside the queues exits. -/
private theorem exited_parked {kernel : KernelState} {tid : ThreadId} (parked : kernel.Parked)
    (fresh : kernel.queued tid = false) (nowNs : Nat) : (kernel.exited tid nowNs).Parked := by
  rw [KernelState.not_queued_iff] at fresh
  refine parked.congr (KernelState.endpoints_updateTcb ..) (fun other member => ?_) ?_
  · have ne : other ≠ tid := fun same => fresh (same ▸ member)
    change (kernel.updateTcb tid _).threadState other = _
    rw [KernelState.threadState_updateTcb, if_neg ne]
  · change Asleep _ (KernelState.schedWithout tid nowNs kernel.sched)
    unfold KernelState.schedWithout
    split
    · exact (parked.asleep.account nowNs).remove tid
    · exact parked.asleep.remove tid

private theorem dispatched_parked {kernel : KernelState} {next : ThreadId}
    (parked : kernel.Parked) (fresh : next ∉ kernel.sending ++ kernel.receiving)
    (nowNs : Nat) : KernelState.Parked { kernel with sched := kernel.sched.setRunning next nowNs } :=
  parked.withSched (parked.asleep.setRunning next nowNs fresh)

/-- Starting a thread that was never started. -/
private theorem started_parked {kernel : KernelState} {tid : ThreadId} (parked : kernel.Parked)
    (inactive : kernel.threadState tid = some .inactive) (entry priority nowNs : Nat) :
    KernelState.Parked
      { kernel.updateTcb tid fun tcb => { tcb with entry, state := .runnable } with
        sched := (kernel.sched.setAdmitted tid .interactive priority none).setReady
          tid nowNs } := by
  obtain ⟨tcb, present, _⟩ := Option.map_eq_some_iff.1 inactive
  have fresh := parked.placed.not_mem inactive rfl
  refine parked.congr (KernelState.endpoints_updateTcb ..) (fun other member => ?_) ?_
  · have ne : other ≠ tid := fun same => fresh (same ▸ member)
    change (kernel.updateTcb tid _).threadState other = _
    rw [KernelState.threadState_updateTcb, if_neg ne]
  · exact parked.asleep.setAdmitted (Slab.lt_of_get? present) priority nowNs
      fun other member => ⟨member, fun same => fresh (same ▸ member)⟩

/-- Killing a thread that is in no queue, and running another one that is in none. -/
theorem step_killed_parked {tid : ThreadId} (isKill : event.kills = some tid)
    (parked : before.kernel.Parked)
    (spared : before.kernel.disruptsQueued event = false)
    (asleep : before.kernel.wakesQueued event = false)
    (taken : (system hal).Step before event after) : after.kernel.Parked := by
  change (perform hal event before).state? = some after at taken
  cases event with
  | terminate other nowNs =>
      have gone := exited_parked parked spared nowNs
      rcases KernelState.terminateThread_state (discard_state (onKernel_state taken).1) with
        same | ⟨next, picked, same⟩
      · rw [same]
        exact gone
      · rw [same]
        exact dispatched_parked gone (gone.asleep.pickNext_awake picked) nowNs
  | terminateAndHandoff other incoming nowNs =>
      have gone := exited_parked parked spared nowNs
      have ended := (onKernel_state taken).1
      rw [KernelState.terminateThreadAndHandoff_run] at ended
      rw [← Option.some.inj ended]
      have endpoints : (before.kernel.exited other nowNs).endpoints = before.kernel.endpoints :=
        KernelState.endpoints_updateTcb ..
      refine dispatched_parked gone ?_ nowNs
      rw [KernelState.sending_congr endpoints, KernelState.receiving_congr endpoints]
      exact KernelState.not_queued_iff.1 asleep
  | _ => simp [KernelEvent.kills] at isKill

/-- Every event that leaves queued threads to their partners keeps the queues in
order. -/
theorem step_parked (parked : before.kernel.Parked) (left : before.leavesQueued event = true)
    (taken : (system hal).Step before event after) : after.kernel.Parked := by
  simp only [leavesQueued, Bool.and_eq_true, Bool.not_eq_true'] at left
  obtain ⟨⟨dispatched, spared⟩, asleep⟩ := left
  cases kills : event.kills with
  | some tid => exact step_killed_parked hal kills parked spared asleep taken
  | none =>
      have scheduled : before.kernel.scheduled event = true := by
        simpa [KernelState.dispatchedOnly, kills] using dispatched
      have moves := step_moves hal taken
      generalize after.kernel = final at moves
      cases moves with
      | @ticked nowNs sched chosen =>
          have accounted := parked.withSched (parked.asleep.account nowNs)
          rcases chosen with rfl | ⟨next, picked, rfl⟩ | ⟨outgoing, runs, rfl⟩
          · exact accounted
          · exact dispatched_parked accounted (accounted.asleep.pickNext_awake picked) nowNs
          · have fresh := parked.running_unqueued runs
            have readied := accounted.withSched (@KernelState.Parked.ready nowNs _ accounted _ fresh)
            exact dispatched_parked readied fresh nowNs
      | @called caller op nowNs next kernel effect =>
          have runs : before.kernel.sched.running = some caller := by
            simpa [KernelState.scheduled] using scheduled
          obtain ⟨later, fresh⟩ := effect.parked parked runs spared asleep
          cases next with
          | none => exact later
          | some next => exact dispatched_parked later (fresh next rfl) nowNs
      | @started _ tid entry priority nowNs isStart =>
          have inactive := KernelState.inactive_of_starts scheduled isStart
          exact started_parked parked inactive entry priority nowNs
      | killed isKill chosen => simp [kills] at isKill
      | spawned isSpawn spawns =>
          have endpoints : final.endpoints = before.kernel.endpoints := by rw [spawns.frame]
          have sched : final.sched = before.kernel.sched := by rw [spawns.frame]
          refine parked.congr endpoints (fun tid member => ?_) (sched ▸ parked.asleep)
          rcases KernelState.threadState_of_grows spawns.tcbs tid with same | ⟨vacant, _⟩
          · exact same
          · rcases List.mem_append.1 member with sends | receives
            · rcases parked.placed.senders tid sends with blocked | blocked
              · simp [vacant] at blocked
              · simp [vacant] at blocked
            · have blocked := parked.placed.receivers tid receives
              simp [vacant] at blocked
      | grantedInto chosen => exact parked.congr rfl (fun _ _ => rfl) parked.asleep

/-- A reply that is accepted, with the switch that follows it. -/
theorem step_reply_stores {caller toThread : ThreadId} {msg : SmallMessage} {nowNs : Nat}
    (ne : caller ≠ toThread)
    (awaits : before.kernel.isBlockedOnReply toThread = true)
    (taken : (system hal).Step before (.syscall caller (.reply toThread msg) nowNs) after) :
    KernelState.Reschedules (before.kernel.storeReply toThread msg) after.kernel := by
  have replied : ∀ {middle : Machine μ},
      (dispatch hal caller nowNs (.reply toThread msg) before).state? = some middle →
      KernelState.Reschedules (before.kernel.storeReply toThread msg) middle.kernel := by
    intro middle ended
    change (onKernel (KernelState.doReply caller toThread msg nowNs) before).state? = _ at ended
    obtain ⟨kernel, inner, rfl⟩ := Exec.zoom_state.1 ended
    exact KernelState.doReply_stores ne awaits inner
  rcases Exec.bind_state.1 taken with ⟨error, failed⟩ | ⟨result, middle, ran, rest⟩
  · exact replied (by rw [failed]; rfl)
  · obtain ⟨sched, same⟩ := replied (by rw [ran]; rfl)
    have committed := (onKernel_state rest).1
    rw [commit_run] at committed
    rw [← Option.some.inj committed, same]
    cases result.next with
    | none => exact ⟨_, rfl⟩
    | some next => exact ⟨_, rfl⟩

/-- An event that disrupts a queued thread leaves it in a queue where it does not
belong. -/
theorem step_disrupts (parked : before.kernel.Parked)
    (dispatched : before.kernel.dispatchedOnly event = true)
    (disrupts : before.kernel.disruptsQueued event = true)
    (taken : (system hal).Step before event after) : ¬ after.kernel.QueuesConsistent := by
  have killed : ∀ tid, event.kills = some tid → before.kernel.queued tid = true →
      ¬ after.kernel.QueuesConsistent := by
    intro tid isKill queued
    obtain ⟨tcb, present⟩ : ∃ tcb, before.kernel.tcb tid = some tcb := by
      cases there : before.kernel.threadState tid with
      | some state =>
          obtain ⟨tcb, present, _⟩ := Option.map_eq_some_iff.1 there
          exact ⟨tcb, present⟩
      | none =>
          rcases List.mem_append.1 (KernelState.queued_iff.1 queued) with sends | receives
          · rcases parked.placed.senders tid sends with blocked | blocked
            · simp [there] at blocked
            · simp [there] at blocked
          · have blocked := parked.placed.receivers tid receives
            simp [there] at blocked
    obtain ⟨dead, same⟩ := step_kills hal isKill present taken
    have exited : after.kernel.threadState tid = some .exited := by
      rw [KernelState.threadState, dead.kept]
      rfl
    exact KernelState.not_consistent_of_awake queued same exited rfl
  cases event with
  | terminate tid nowNs => exact killed tid rfl disrupts
  | terminateAndHandoff tid incoming nowNs => exact killed tid rfl disrupts
  | syscall caller op nowNs =>
      cases op with
      | reply toThread msg =>
          obtain ⟨queued, awaits⟩ := Bool.and_eq_true_iff.1 disrupts
          have runs : before.kernel.sched.running = some caller := by
            simpa [KernelState.dispatchedOnly, KernelEvent.kills, KernelState.scheduled]
              using dispatched
          have ne : caller ≠ toThread := by
            rintro rfl
            exact parked.running_unqueued runs (KernelState.queued_iff.1 queued)
          have stored := step_reply_stores hal ne awaits taken
          obtain ⟨sched, same⟩ := stored
          have endpoints : after.kernel.endpoints = before.kernel.endpoints := by
            rw [same]
            exact KernelState.endpoints_updateTcb ..
          have present : after.kernel.threadState toThread =
              (before.kernel.threadState toThread).map fun _ => .runnable := by
            rw [same]
            exact (KernelState.threadState_storeReply ..).trans (if_pos rfl)
          have waits : ∃ state, before.kernel.threadState toThread = some state := by
            unfold KernelState.isBlockedOnReply at awaits
            unfold KernelState.threadState
            cases there : before.kernel.tcb toThread with
            | none => simp [there] at awaits
            | some tcb => exact ⟨tcb.state, rfl⟩
          obtain ⟨state, there⟩ := waits
          rw [there] at present
          exact KernelState.not_consistent_of_awake queued endpoints present rfl
      | _ => simp [KernelState.disruptsQueued] at disrupts
  | _ => simp [KernelState.disruptsQueued] at disrupts

theorem parked_of_reachable {machine : Machine μ}
    (reachable : (system hal).Reachable
      (fun machine event => machine.leavesQueued event = true) machine) :
    machine.kernel.Parked :=
  reachable.invariant (fun _ boots => Boots.parked boots)
    fun _ _ _ left parked taken => step_parked hal parked left taken

/-- In every run whose events leave queued threads to their partners, every thread is
queued at most once and in the queue that its state names.  The first event that makes
a queued thread runnable by a reply, or kills it, breaks this. -/
theorem queues_consistent_of_run {machine : Machine μ}
    (reachable : (system hal).Reachable
      (fun machine event => machine.leavesQueued event = true) machine) :
    machine.kernel.QueuesConsistent ∧
      ∀ event after, machine.kernel.dispatchedOnly event = true →
        machine.kernel.disruptsQueued event = true →
        (system hal).Step machine event after → ¬ after.kernel.QueuesConsistent := by
  have parked := parked_of_reachable hal reachable
  exact ⟨parked.placed, fun event after dispatched disrupts taken =>
    step_disrupts hal parked dispatched disrupts taken⟩

/-- The machine in which a `Call` is queued has consistent queues. -/
theorem queues_consistent_of_run_sample :
    ∃ machine : Machine Unit, machine.kernel.queued 0 = true ∧
      machine.kernel.QueuesConsistent := by
  have ran : (runWhile sampleHal leavesQueued callQueued sampleMachine).any fun machine =>
      machine.kernel.queued 0 := by
    decide +kernel
  obtain ⟨machine, reached, queued⟩ := (Option.any_eq_true _ _).1 ran
  have run := reaches_runWhile sampleHal (.refl sampleMachine) reached
  obtain ⟨consistent, _⟩ :=
    queues_consistent_of_run sampleHal ⟨sampleMachine, sampleMachine_boots, run⟩
  exact ⟨machine, queued, consistent⟩

/-- A reply to a thread whose `Call` is still queued makes it runnable in its queue. -/
theorem reply_leaves_caller_queued :
    ¬ ∀ machine : Machine Unit,
      (system sampleHal).Reachable
        (fun machine event => machine.kernel.scheduled event = true) machine →
      machine.kernel.QueuesConsistent := by
  intro claimed
  have ran : (runWhile sampleHal (fun machine event => machine.kernel.scheduled event)
      (callQueued ++ [.syscall 1 (.reply 0 (.new 9)) 5]) sampleMachine).any (fun machine =>
        machine.kernel.sending = [0] ∧ machine.kernel.threadState 0 = some .runnable) := by
    decide +kernel
  obtain ⟨machine, reached, broken⟩ := (Option.any_eq_true _ _).1 ran
  obtain ⟨queued, runnable⟩ := of_decide_eq_true broken
  have run := reaches_runWhile sampleHal (.refl sampleMachine) reached
  have consistent := claimed machine ⟨sampleMachine, sampleMachine_boots, run⟩
  have waits := consistent.senders 0 (by simp [queued])
  simp [runnable] at waits

end Machine

end Simurgh
