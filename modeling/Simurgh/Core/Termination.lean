import Simurgh.Core.Blocking

/-!
# Terminated threads

Killing a thread marks its record and takes it out of the scheduler, and nothing
else: an endpoint queue that holds the thread still does.  A killed thread keeps
its record until a partner takes it out of such a queue.
-/

namespace Simurgh

/-! ## Out of the scheduler -/

namespace Scheduler

variable {NT NCG : Nat}

/-- The thread has no entity and does not run. -/
structure Without (sched : Scheduler NT NCG) (tid : ThreadId) : Prop where
  entity : sched.entity tid = none
  stopped : sched.running ≠ some tid

namespace Without

variable {sched : Scheduler NT NCG} {tid : ThreadId}

theorem setReady (without : sched.Without tid) (thread : ThreadId) (nowNs : Nat) :
    (sched.setReady thread nowNs).Without tid where
  entity := by
    unfold Scheduler.setReady
    rw [entity_updateEntity, without.entity]
    simp
  stopped := by
    rw [running_setReady]
    exact without.stopped

theorem setAllReady (without : sched.Without tid) (nowNs : Nat)
    (threads : List ThreadId) : (sched.setAllReady nowNs threads).Without tid := by
  induction threads generalizing sched with
  | nil => exact without
  | cons thread rest ih =>
      exact ih (without.setReady thread nowNs)

theorem setBlocked (without : sched.Without tid) (thread : ThreadId) :
    (sched.setBlocked thread).Without tid where
  entity := by
    rw [entity_setBlocked, without.entity]
    simp
  stopped := fun runs => without.stopped (running_setBlocked runs).1

theorem setRunning (without : sched.Without tid) (thread : ThreadId) (nowNs : Nat) :
    (sched.setRunning thread nowNs).Without tid where
  entity := by
    rw [entity_setRunning, without.entity]
    simp
  stopped := by
    intro runs
    rcases running_setRunning runs with before | ⟨rfl, admitted⟩
    · exact without.stopped before
    · simp [without.entity] at admitted

theorem account (without : sched.Without tid) (nowNs : Nat) :
    (sched.account nowNs).Without tid where
  entity := by
    rcases entity_account nowNs sched tid with same | ⟨runs, _⟩
    · rw [same]
      exact without.entity
    · exact absurd runs without.stopped
  stopped := by simp

theorem setAdmitted (without : sched.Without tid) {thread : ThreadId}
    (ne : thread ≠ tid) (mode : SchedulerMode) (priority : Nat)
    (group : Option ChainGroupId) :
    (sched.setAdmitted thread mode priority group).Without tid where
  entity := by
    change (sched.entities.put thread _).get? tid = none
    rw [Slab.get?_put_of_ne ne]
    exact without.entity
  stopped := without.stopped

theorem remove (without : sched.Without tid) (thread : ThreadId) :
    (sched.remove thread).Without tid where
  entity := by
    rw [entity_remove, without.entity]
    simp
  stopped := fun runs => without.stopped (running_remove runs).1

end Without

theorem remove_without (thread : ThreadId) (sched : Scheduler NT NCG) :
    (sched.remove thread).Without thread where
  entity := by simp [entity_remove]
  stopped := fun runs => (running_remove runs).2 rfl

end Scheduler

/-! ## Dead threads -/

/-- The event is neither a syscall of the thread nor its start. -/
def KernelEvent.leavesAlone (tid : ThreadId) : KernelEvent → Bool
  | .syscall caller _ _ => caller != tid
  | event => event.starts != some tid

/-- The thread is out of the scheduler and its control block is `record`. -/
structure Dead (tid : ThreadId) (record : Tcb) (threads : ThreadId → Option Tcb)
    (sched : KScheduler) : Prop where
  kept : threads tid = some record
  without : sched.Without tid

namespace KernelState

variable {tid : ThreadId} {record : Tcb} {state : KernelState}

/-- The thread waits in a queue of some endpoint. -/
def queued (state : KernelState) (tid : ThreadId) : Bool :=
  state.endpoints.objects.any fun endpoint =>
    (endpoint.senders ++ endpoint.receivers).any fun waiter => waiter.thread == tid

theorem queued_eq_false_iff : state.queued tid = false ↔
    ∀ eid ep, state.endpoints.get? eid = some ep →
      ∀ waiter ∈ ep.senders ++ ep.receivers, waiter.thread ≠ tid := by
  unfold queued
  rw [List.any_eq_false]
  constructor
  · intro absent eid ep present waiter member same
    have unseen := absent ep (Slab.mem_objects.2 ⟨eid, present⟩)
    exact unseen (List.any_eq_true.2 ⟨waiter, member, by simp [same]⟩)
  · intro absent ep stored found
    obtain ⟨eid, present⟩ := Slab.mem_objects.1 stored
    obtain ⟨waiter, member, same⟩ := List.any_eq_true.1 found
    exact absent eid ep present waiter member (by simpa using same)

/-- Storing an endpoint whose queues do not hold the thread. -/
theorem queued_putEndpoint (unqueued : state.queued tid = false) {eid : EndpointId}
    {endpoint : KEndpoint}
    (absent : ∀ waiter ∈ endpoint.senders ++ endpoint.receivers, waiter.thread ≠ tid) :
    (state.putEndpoint eid endpoint).queued tid = false := by
  rw [queued_eq_false_iff] at *
  intro other ep present
  change (state.endpoints.put eid endpoint).get? other = some ep at present
  rw [Slab.get?_put] at present
  by_cases here : eid = other ∧ other < maxEndpoints
  · rw [if_pos here, Option.some.injEq] at present
    rw [← present]
    exact absent
  · rw [if_neg here] at present
    exact unqueued other ep present

/-- Queues change only where an endpoint is stored. -/
theorem queued_congr {later : KernelState} (same : later.endpoints = state.endpoints)
    (unqueued : state.queued tid = false) : later.queued tid = false := by
  rw [queued, same]
  exact unqueued

/-- A partner comes out of a queue. -/
theorem partner_ne_of_unqueued (unqueued : state.queued tid = false) (caller : ThreadId)
    (op : SyscallOp) : state.partner caller op ≠ some tid := by
  rw [queued_eq_false_iff] at unqueued
  have outside : ∀ cap needed ep, state.endpointAt caller cap needed = some ep →
      ∀ waiter ∈ ep.senders ++ ep.receivers, waiter.thread ≠ tid := by
    intro cap needed ep found
    unfold endpointAt at found
    cases resolved : state.resolve caller cap .endpoint needed with
    | error error => simp [resolved] at found
    | ok held =>
        rw [resolved] at found
        exact unqueued _ ep found
  have fromReceivers : ∀ cap, (state.endpointAt caller cap .write).bind
      Endpoint.blockedReceiver ≠ some tid := by
    intro cap met
    obtain ⟨ep, found, first⟩ := Option.bind_eq_some_iff.1 met
    obtain ⟨waiter, front, same⟩ := Option.map_eq_some_iff.1 first
    have member : waiter ∈ ep.senders ++ ep.receivers :=
      List.mem_append_right _ (List.mem_of_head? front)
    exact outside cap _ ep found waiter member same
  have fromSenders : ∀ cap, ((state.endpointAt caller cap .read).bind fun ep =>
      ep.senders.head?.map Waiter.thread) ≠ some tid := by
    intro cap met
    obtain ⟨ep, found, first⟩ := Option.bind_eq_some_iff.1 met
    obtain ⟨waiter, front, same⟩ := Option.map_eq_some_iff.1 first
    have member : waiter ∈ ep.senders ++ ep.receivers :=
      List.mem_append_left _ (List.mem_of_head? front)
    exact outside cap _ ep found waiter member same
  cases op with
  | send endpoint msg => exact fromReceivers endpoint
  | call endpoint msg => exact fromReceivers endpoint
  | recv endpoint => exact fromSenders endpoint
  | _ => simp [partner]

/-! ## Updates that leave a dead thread alone -/

section Updates

variable (dead : Dead tid record state.tcb state.sched)

include dead

theorem dead_updateTcb {id : ThreadId} (ne : id ≠ tid) (update : Tcb → Tcb) :
    (state.updateTcb id update).tcb tid = some record := by
  rw [tcb_updateTcb, if_neg (Ne.symm ne)]
  exact dead.kept

theorem dead_putEndpoint (eid : EndpointId) (endpoint : KEndpoint) :
    Dead tid record (state.putEndpoint eid endpoint).tcb
      (state.putEndpoint eid endpoint).sched :=
  dead

theorem dead_block {thread : ThreadId} (ne : thread ≠ tid) (blocked : ThreadState) :
    Dead tid record (state.block thread blocked).tcb (state.block thread blocked).sched where
  kept := dead_updateTcb dead ne _
  without := dead.without.setBlocked thread

theorem dead_handOver {receiver : ThreadId} (ne : receiver ≠ tid)
    (sender : ThreadId) (msg : SmallMessage) (nowNs : Nat) :
    Dead tid record (state.handOver receiver sender msg nowNs).tcb
      (state.handOver receiver sender msg nowNs).sched where
  kept := dead_updateTcb dead ne _
  without := dead.without.setReady receiver nowNs

theorem dead_release {sender : ThreadId} (ne : sender ≠ tid) (nowNs : Nat) :
    Dead tid record (state.release sender nowNs).tcb (state.release sender nowNs).sched where
  kept := dead_updateTcb dead ne _
  without := dead.without.setReady sender nowNs

/-- Only a thread that awaits a reply is replied to. -/
theorem dead_storeReply (exited : record.state = .exited) {toThread : ThreadId}
    (awaits : state.isBlockedOnReply toThread = true) (msg : SmallMessage) :
    (state.storeReply toThread msg).tcb tid = some record := by
  refine dead_updateTcb dead (fun same => ?_) _
  rw [same, isBlockedOnReply, dead.kept] at awaits
  simp [exited] at awaits

end Updates

/-! ## One step -/

section Step

variable {caller : ThreadId} {nowNs : Nat} {before after : KernelState}
variable {op : SyscallOp} {next : Option ThreadId}

/-- A syscall of another thread leaves a dead thread alone unless it takes the
thread out of a queue. -/
theorem Effect.dead (effect : Effect caller nowNs before op next after)
    (dead : Dead tid record before.tcb before.sched) (exited : record.state = .exited)
    (other : caller ≠ tid) (spared : before.partner caller op ≠ some tid) :
    Dead tid record after.tcb after.sched := by
  cases effect with
  | unchanged => exact dead
  | yielded => exact ⟨dead.kept, dead.without.account nowNs⟩
  | revoked holds ran => exact dead
  | granted target found source ne ran => exact dead
  | @retyped csId untyped targetType count uid region later grant after holds present
      reserved created newPages =>
      refine ⟨created.tcbs.get?_of_some dead.kept, ?_⟩
      rw [created.frame]
      exact dead.without
  | mapped holds frameHeld allowed resolved present added used => exact dead
  | rolledBack holds frameHeld allowed resolved present added removed => exact dead
  | @sent csId endpoint msg eid ep receiver rest holds present waiting =>
      have notReceiver : receiver.thread ≠ tid := fun same =>
        spared (same ▸ (holds.partner_receiver present waiting).1)
      exact dead_handOver (dead_putEndpoint dead eid _) notReceiver caller msg nowNs
  | @called csId endpoint msg eid ep receiver rest after next holds present waiting
      admitted final chosen =>
      have notReceiver : receiver.thread ≠ tid := fun same =>
        spared (same ▸ (holds.partner_receiver present waiting).2)
      rw [final]
      have handed := dead_handOver (dead_putEndpoint dead eid
        { ep with receivers := rest, pendingDelivery := none }) notReceiver caller msg nowNs
      exact dead_block handed other _
  | @callStuck csId endpoint msg eid ep receiver rest holds present waiting absent =>
      have notReceiver : receiver.thread ≠ tid := fun same =>
        spared (same ▸ (holds.partner_receiver present waiting).2)
      exact dead_handOver (dead_putEndpoint dead eid _) notReceiver caller msg nowNs
  | queued isSend holds present noReceiver final chosen =>
      rw [final]
      exact dead_block (dead_putEndpoint dead _ _) other _
  | received holds present waiting =>
      have notSender : _ ≠ tid := fun same =>
        spared (same ▸ holds.partner_sender present waiting)
      exact dead_release (dead_putEndpoint dead _ _) notSender nowNs
  | awaiting holds present noSender final chosen =>
      rw [final]
      exact dead_block (dead_putEndpoint dead _ _) other _
  | replied ne awaits admitted chosen =>
      exact ⟨dead_storeReply dead exited awaits _,
        (dead.without.setReady _ nowNs).setReady caller nowNs⟩
  | @replyStuck toThread msg ne awaits absent =>
      refine ⟨dead_storeReply dead exited awaits msg, ?_⟩
      rw [storeReply, sched_updateTcb]
      exact dead.without
  | signalled holds present =>
      exact ⟨dead.kept, dead.without.setAllReady nowNs _⟩
  | waiting holds present =>
      exact ⟨dead.kept, (dead.without.account nowNs).setBlocked caller⟩
  | taken isRead holds present => exact dead
  | bound region found target =>
      rw [bindIrq_frame]
      exact dead

/-- Syscalls put only their caller into a queue. -/
theorem Effect.unqueued (effect : Effect caller nowNs before op next after)
    (unqueued : before.queued tid = false) (other : caller ≠ tid) :
    after.queued tid = false := by
  have held := queued_eq_false_iff.1 unqueued
  have handed : ∀ {eid ep} {receiver : Waiter} {rest : List Waiter} (msg : SmallMessage),
      before.endpoints.get? eid = some ep → ep.receivers = receiver :: rest →
      ((before.putEndpoint eid
        { ep with receivers := rest, pendingDelivery := none }).handOver
          receiver.thread caller msg nowNs).queued tid = false := by
    intro eid ep receiver rest msg present waiting
    refine queued_congr (endpoints_updateTcb ..) (queued_putEndpoint unqueued ?_)
    intro waiter member
    refine held eid ep present waiter ?_
    rw [waiting]
    simp only [List.mem_append, List.mem_cons] at member ⊢
    tauto
  cases effect with
  | unchanged => exact unqueued
  | yielded => exact unqueued
  | revoked holds ran => exact unqueued
  | granted target found source ne ran => exact unqueued
  | retyped holds present reserved created newPages =>
      rw [queued_eq_false_iff]
      intro eid ep there waiter member
      rcases created.endpoints.cases_of_some there with old | ⟨_, fresh⟩
      · exact held eid ep old waiter member
      · rw [fresh] at member
        simp [Endpoint.new] at member
  | mapped holds frameHeld allowed resolved present added used => exact unqueued
  | rolledBack holds frameHeld allowed resolved present added removed => exact unqueued
  | sent holds present waiting => exact handed _ present waiting
  | called holds present waiting admitted final chosen =>
      rw [final]
      exact queued_congr (endpoints_updateTcb ..) (handed _ present waiting)
  | callStuck holds present waiting absent => exact handed _ present waiting
  | @queued csId endpoint msg eid ep after next isCall op isSend holds present noReceiver
      final chosen =>
      rw [final]
      refine queued_congr (endpoints_updateTcb ..) (queued_putEndpoint unqueued ?_)
      intro waiter member
      simp only [List.mem_append, List.mem_singleton] at member
      rcases member with (old | new) | old
      · exact held eid ep present waiter (List.mem_append_left _ old)
      · rw [new]
        exact other
      · exact held eid ep present waiter (List.mem_append_right _ old)
  | @received csId endpoint eid ep sender rest holds present waiting =>
      refine queued_congr (endpoints_updateTcb ..) (queued_putEndpoint unqueued ?_)
      intro waiter member
      refine held eid ep present waiter ?_
      rw [waiting]
      simp only [List.mem_append, List.mem_cons] at member ⊢
      tauto
  | @awaiting csId endpoint eid ep after next holds present noSender final chosen =>
      rw [final]
      refine queued_congr (endpoints_updateTcb ..) (queued_putEndpoint unqueued ?_)
      intro waiter member
      simp only [List.mem_append, List.mem_singleton] at member
      rcases member with old | old | new
      · exact held eid ep present waiter (List.mem_append_left _ old)
      · exact held eid ep present waiter (List.mem_append_right _ old)
      · rw [new]
        exact other
  | replied ne awaits admitted chosen =>
      exact queued_congr (endpoints_updateTcb ..) unqueued
  | replyStuck ne awaits absent =>
      exact queued_congr (endpoints_updateTcb ..) unqueued
  | signalled holds present => exact unqueued
  | waiting holds present => exact unqueued
  | taken isRead holds present => exact unqueued
  | bound region found target =>
      rw [bindIrq_frame]
      exact unqueued

/-! ## A partner that takes a dead thread out of a queue -/

theorem of_endpointAt {endpoint : CapId} {needed : CapabilityRights} {ep : KEndpoint}
    (found : before.endpointAt caller endpoint needed = some ep) :
    ∃ cap, before.resolve caller endpoint .endpoint needed = .ok cap ∧
      before.endpoints.get? cap.object.id = some ep := by
  unfold endpointAt at found
  cases resolved : before.resolve caller endpoint .endpoint needed with
  | error error => simp [resolved] at found
  | ok cap =>
      rw [resolved] at found
      exact ⟨cap, rfl, found⟩

/-- `Send` and `Call` fail on a receiver that is not admitted, after they have
handed the message over. -/
theorem doSend_absent {endpoint : CapId} {msg : SmallMessage} (isCall : Bool)
    (met : before.partner caller (.send endpoint msg) = some tid)
    (absent : before.sched.entity tid = none) (nowNs : Nat) :
    ∃ eid later,
      doSend caller endpoint msg isCall nowNs before =
        .err (.sched .noSuchThread)
          ((before.putEndpoint eid later).handOver tid caller msg nowNs) := by
  obtain ⟨ep, found, first⟩ := Option.bind_eq_some_iff.1 met
  obtain ⟨cap, resolved, present⟩ := of_endpointAt found
  obtain ⟨receiver, front, rfl⟩ := Option.map_eq_some_iff.1 first
  obtain ⟨rest, waiting⟩ := List.head?_eq_some_iff.1 front
  refine ⟨cap.object.id, { ep with receivers := rest, pendingDelivery := none }, ?_⟩
  unfold doSend
  rw [Exec.get_bind_run, resolved, Exec.ofExcept_ok, Exec.pure_bind_run]
  rw [onEndpoint, Exec.bind_of_ok (onObject_of_ok present
    (Endpoint.trySend_of_receiver waiting caller msg true))]
  change (takeDeliveredAt cap.object.id >>= _) (before.putEndpoint cap.object.id _) = _
  rw [Exec.bind_of_ok (takeDeliveredAt_run present)]
  let taken := before.putEndpoint cap.object.id
    { ep with receivers := rest, pendingDelivery := none }
  change (deliver caller nowNs (some (receiver.thread, msg)) >>= _) taken = _
  have missing : taken.sched.entity receiver.thread = none := absent
  exact Exec.bind_of_err (deliver_of_none missing) _

/-- `Recv` makes the thread runnable whose message it takes. -/
theorem doRecv_sender {endpoint : CapId}
    (met : before.partner caller (.recv endpoint) = some tid) (nowNs : Nat) :
    ∃ eid later msg,
      doRecv caller endpoint nowNs before =
        .ok (.message tid msg) ((before.putEndpoint eid later).release tid nowNs) := by
  obtain ⟨ep, found, first⟩ := Option.bind_eq_some_iff.1 met
  obtain ⟨cap, resolved, present⟩ := of_endpointAt found
  obtain ⟨sender, front, rfl⟩ := Option.map_eq_some_iff.1 first
  obtain ⟨rest, waiting⟩ := List.head?_eq_some_iff.1 front
  refine ⟨cap.object.id, { ep with senders := rest }, sender.msg, ?_⟩
  unfold doRecv
  rw [Exec.get_bind_run, resolved, Exec.ofExcept_ok, Exec.pure_bind_run]
  rw [onEndpoint, Exec.bind_of_ok (onObject_of_ok present
    (Endpoint.tryRecv_of_sender waiting caller true))]
  change (Exec.modify _ >>= _) (before.putEndpoint cap.object.id _) = _
  rw [Exec.modify_bind_run, Exec.bind_of_ok (release_run ..)]
  rfl

end Step

end KernelState

/-! ## Runs -/

namespace Machine

variable {μ : Type} (hal : HalInterface μ)
variable {before after : Machine μ} {event : KernelEvent} {tid : ThreadId} {record : Tcb}

theorem schedWithout_without {sched : KScheduler} (without : sched.Without tid)
    (other : ThreadId) (nowNs : Nat) :
    (KernelState.schedWithout other nowNs sched).Without tid := by
  unfold KernelState.schedWithout
  split
  · exact (without.account nowNs).remove other
  · exact without.remove other

/-- A thread that is killed is dead, and the queues stay as they are. -/
theorem step_kills {tcb : Tcb} (isKill : event.kills = some tid)
    (present : before.kernel.tcb tid = some tcb)
    (taken : (system hal).Step before event after) :
    Dead tid { tcb with state := .exited } after.kernel.tcb after.kernel.sched ∧
      after.kernel.endpoints = before.kernel.endpoints := by
  have moves := step_moves hal taken
  generalize after.kernel = final at moves
  cases moves with
  | ticked chosen => simp [KernelEvent.kills] at isKill
  | called effect => simp [KernelEvent.kills] at isKill
  | started isStart =>
      cases event with
      | terminate other nowNs => simp [KernelEvent.starts] at isStart
      | terminateAndHandoff other incoming nowNs => simp [KernelEvent.starts] at isStart
      | _ => simp [KernelEvent.kills] at isKill
  | spawned isSpawn spawns =>
      cases event with
      | terminate other nowNs => simp [KernelEvent.spawns] at isSpawn
      | terminateAndHandoff other incoming nowNs => simp [KernelEvent.spawns] at isSpawn
      | _ => simp [KernelEvent.kills] at isKill
  | grantedInto chosen => simp [KernelEvent.kills] at isKill
  | @killed _ other nowNs sched kills chosen =>
      obtain rfl : other = tid := Option.some.inj (kills.symm.trans isKill)
      have gone : (KernelState.schedWithout other nowNs before.kernel.sched).Without other :=
        Scheduler.remove_without ..
      refine ⟨⟨?_, ?_⟩, KernelState.endpoints_updateTcb ..⟩
      · change (before.kernel.updateTcb other _).tcb other = _
        rw [KernelState.tcb_updateTcb, if_pos rfl, present]
        rfl
      · rcases chosen with rfl | ⟨next, rfl⟩
        · exact gone
        · exact gone.setRunning next nowNs

/-- A dead thread stays dead in a step of others that does not take it out of a
queue. -/
theorem step_dead (dead : Dead tid record before.kernel.tcb before.kernel.sched)
    (exited : record.state = .exited) (alone : event.leavesAlone tid = true)
    (spared : ∀ caller op, before.kernel.partner caller op ≠ some tid)
    (taken : (system hal).Step before event after) :
    Dead tid record after.kernel.tcb after.kernel.sched := by
  have moves := step_moves hal taken
  generalize after.kernel = final at moves
  cases moves with
  | @ticked nowNs sched chosen =>
      have accounted := dead.without.account nowNs
      rcases chosen with rfl | ⟨next, _, rfl⟩ | ⟨outgoing, _, rfl⟩
      · exact ⟨dead.kept, accounted⟩
      · exact ⟨dead.kept, accounted.setRunning next nowNs⟩
      · exact ⟨dead.kept, (accounted.setReady outgoing nowNs).setRunning outgoing nowNs⟩
  | @called caller op nowNs next kernel effect =>
      have other : caller ≠ tid := by simpa [KernelEvent.leavesAlone] using alone
      have later := effect.dead dead exited other (spared caller op)
      cases next with
      | none => exact later
      | some next => exact ⟨later.kept, later.without.setRunning next nowNs⟩
  | @started _ other entry priority nowNs isStart =>
      have ne : other ≠ tid := by
        cases event with
        | syscall caller op nowNs' => simp [KernelEvent.starts] at isStart
        | _ =>
            simp only [KernelEvent.leavesAlone, isStart, bne_iff_ne, ne_eq,
              Option.some.injEq] at alone
            exact alone
      exact ⟨KernelState.dead_updateTcb dead ne _,
        (dead.without.setAdmitted ne _ _ _).setReady other nowNs⟩
  | @killed _ other nowNs sched kills chosen =>
      have gone := schedWithout_without dead.without other nowNs
      refine ⟨?_, ?_⟩
      · change (before.kernel.updateTcb other _).tcb tid = _
        rw [KernelState.tcb_updateTcb, dead.kept]
        by_cases same : tid = other
        · rw [if_pos same, Option.map_some, ← exited]
        · rw [if_neg same]
      · rcases chosen with rfl | ⟨next, rfl⟩
        · exact gone
        · exact gone.setRunning next nowNs
  | spawned isSpawn spawns =>
      refine ⟨spawns.tcbs.get?_of_some dead.kept, ?_⟩
      rw [spawns.frame]
      exact dead.without
  | grantedInto chosen => exact dead

theorem step_unqueued (unqueued : before.kernel.queued tid = false)
    (alone : event.leavesAlone tid = true)
    (taken : (system hal).Step before event after) :
    after.kernel.queued tid = false := by
  have moves := step_moves hal taken
  generalize after.kernel = final at moves
  cases moves with
  | ticked chosen => exact unqueued
  | @called caller op nowNs next kernel effect =>
      have other : caller ≠ tid := by simpa [KernelEvent.leavesAlone] using alone
      have later := effect.unqueued unqueued other
      cases next with
      | none => exact later
      | some next => exact later
  | started isStart =>
      exact KernelState.queued_congr (KernelState.endpoints_updateTcb ..) unqueued
  | killed kills chosen =>
      exact KernelState.queued_congr (KernelState.endpoints_updateTcb ..) unqueued
  | spawned isSpawn spawns =>
      exact KernelState.queued_congr (by rw [spawns.frame]) unqueued
  | grantedInto chosen => exact unqueued

/-- Whoever takes a dead thread out of a queue makes it runnable. -/
theorem revived {caller : ThreadId} {op : SyscallOp} {nowNs : Nat}
    (dead : Dead tid record before.kernel.tcb before.kernel.sched)
    (exited : record.state = .exited)
    (met : before.kernel.partner caller op = some tid)
    (taken : (system hal).Step before (.syscall caller op nowNs) after) :
    after.kernel.threadState tid = some .runnable := by
  have present : before.kernel.threadState tid = some .exited := by
    rw [KernelState.threadState, dead.kept, Option.map_some, exited]
  have sent : ∀ endpoint msg isCall,
      before.kernel.partner caller (.send endpoint msg) = some tid →
      ∀ {after : Machine μ}, (((do
        let result ← onKernel (KernelState.doSend caller endpoint msg isCall nowNs)
        onKernel (commit result.next nowNs)) :
          Exec (Machine μ) SyscallError Unit) before).state? = some after →
      after.kernel.threadState tid = some .runnable := by
    intro endpoint msg isCall met after ended
    obtain ⟨eid, later, ran⟩ :=
      KernelState.doSend_absent isCall met dead.without.entity nowNs
    have failed : onKernel (KernelState.doSend caller endpoint msg isCall nowNs) before =
        .err (.sched .noSuchThread) { before with
          kernel := (before.kernel.putEndpoint eid later).handOver tid caller msg nowNs } := by
      simp [onKernel, Exec.zoom, ran]
    rw [Exec.bind_of_err failed] at ended
    rw [← Option.some.inj ended, KernelState.threadState_handOver, if_pos rfl]
    change (before.kernel.threadState tid).map _ = _
    rw [present]
    rfl
  cases op with
  | send endpoint msg => exact sent endpoint msg false met taken
  | call endpoint msg => exact sent endpoint msg true met taken
  | recv endpoint =>
      obtain ⟨eid, later, msg, ran⟩ := KernelState.doRecv_sender met nowNs
      have received : onKernel (KernelState.doRecv caller endpoint nowNs) before =
          .ok (.message tid msg) { before with
            kernel := (before.kernel.putEndpoint eid later).release tid nowNs } := by
        simp [onKernel, Exec.zoom, ran]
      change ((onKernel (KernelState.doRecv caller endpoint nowNs) >>= _) before).state? =
        some after at taken
      rw [Exec.bind_of_ok received] at taken
      rw [← Option.some.inj taken, KernelState.threadState_release, if_pos rfl]
      change (before.kernel.threadState tid).map _ = _
      rw [present]
      rfl
  | _ => simp [KernelState.partner] at met

/-- A thread that is killed while no endpoint queue holds it stays as the kill left
it, whatever others do, and is nobody's partner.  A dead thread that is taken out of
a queue is runnable again. -/
theorem terminated_stays_dead {killed : Machine μ} {tcb : Tcb}
    (isKill : event.kills = some tid) (present : before.kernel.tcb tid = some tcb)
    (taken : (system hal).Step before event killed) :
    (before.kernel.queued tid = false →
      ∀ later, (system hal).Reaches (fun _ event => event.leavesAlone tid = true)
          killed later →
        later.kernel.tcb tid = some { tcb with state := .exited } ∧
          later.kernel.sched.Without tid ∧
          ∀ caller op, later.kernel.partner caller op ≠ some tid) ∧
      ∀ later caller op nowNs revivedMachine,
        later.kernel.tcb tid = some { tcb with state := .exited } →
        later.kernel.sched.Without tid →
        later.kernel.partner caller op = some tid →
        (system hal).Step later (.syscall caller op nowNs) revivedMachine →
        revivedMachine.kernel.threadState tid = some .runnable := by
  obtain ⟨dead, sameQueues⟩ := step_kills hal isKill present taken
  refine ⟨fun unqueued later run => ?_, fun later caller op nowNs final kept without met step => ?_⟩
  · let stays (machine : Machine μ) : Prop :=
      Dead tid { tcb with state := .exited } machine.kernel.tcb machine.kernel.sched ∧
        machine.kernel.queued tid = false
    have initially : stays killed := ⟨dead, KernelState.queued_congr sameQueues unqueued⟩
    have still : stays later := by
      refine run.invariant initially ?_
      intro before event after alone ⟨gone, absent⟩ taken
      exact ⟨step_dead hal gone rfl alone (KernelState.partner_ne_of_unqueued absent) taken,
        step_unqueued hal absent alone taken⟩
    exact ⟨still.1.kept, still.1.without,
      KernelState.partner_ne_of_unqueued still.2⟩
  · exact revived hal ⟨kept, without⟩ rfl met step

/-- A machine that starts a second thread and kills its root task. -/
def rootKilled : Option (Machine Unit) := do
  let started ← runWhile sampleHal (fun _ _ => true) callQueued.dropLast sampleMachine
  (perform sampleHal (.terminate 0 5) started).state?

/-- The second thread makes an endpoint, and waits at the one of the root task. -/
def goesOn : List KernelEvent :=
  [.syscall 1 (.retype 0 .endpoint 1) 6, .tick 7, .syscall 1 (.recv 2) 8]

theorem terminated_stays_dead_sample :
    ∃ (killed later : Machine Unit) (tcb : Tcb), rootKilled = some killed ∧
      runWhile sampleHal (fun _ event => event.leavesAlone 0) goesOn killed = some later ∧
      later.kernel.threadState 1 = some .blockedOnRecv ∧
      later.kernel.tcb 0 = some { tcb with state := .exited } ∧
      ∀ caller op, later.kernel.partner caller op ≠ some 0 := by
  have ran : (runWhile sampleHal (fun _ _ => true) callQueued.dropLast sampleMachine).any
      (fun started => (started.kernel.tcb 0).isSome ∧ started.kernel.queued 0 = false ∧
        (perform sampleHal (.terminate 0 5) started).state?.any fun killed =>
          (runWhile sampleHal (fun _ event => event.leavesAlone 0) goesOn killed).any
            fun later => later.kernel.threadState 1 = some .blockedOnRecv) := by
    decide +kernel
  obtain ⟨started, boots, continues⟩ := (Option.any_eq_true _ _).1 ran
  obtain ⟨present, unqueued, continues⟩ := of_decide_eq_true continues
  obtain ⟨tcb, present⟩ := Option.isSome_iff_exists.1 present
  obtain ⟨killed, taken, continues⟩ := (Option.any_eq_true _ _).1 continues
  obtain ⟨later, run, waits⟩ := (Option.any_eq_true _ _).1 continues
  obtain ⟨stays, _⟩ :=
    @terminated_stays_dead _ sampleHal _ (.terminate 0 5) 0 _ _ rfl present taken
  obtain ⟨kept, _, partners⟩ :=
    stays unqueued later (reaches_runWhile sampleHal (.refl killed) run)
  refine ⟨killed, later, tcb, ?_, run, of_decide_eq_true waits, kept, partners⟩
  rw [rootKilled, boots]
  exact taken

/-- The root task is replied to while its `Call` is still queued, and dies.  The next
`Recv` makes it runnable. -/
theorem recv_revives_terminated :
    ¬ ∀ machine killed later : Machine Unit, ∀ tid nowNs,
      (system sampleHal).Reachable
        (fun machine event => machine.kernel.scheduled event = true) machine →
      machine.kernel.sched.running = some tid →
      (system sampleHal).Step machine (.terminate tid nowNs) killed →
      (system sampleHal).Reaches
        (fun machine event => (machine.kernel.scheduled event && event.leavesAlone tid) = true)
        killed later →
      later.kernel.threadState tid = some .exited := by
  intro claimed
  let admits (machine : Machine Unit) (event : KernelEvent) : Bool :=
    machine.kernel.scheduled event
  let others (machine : Machine Unit) (event : KernelEvent) : Bool :=
    machine.kernel.scheduled event && event.leavesAlone 0
  let replied := callQueued ++ [.syscall 1 (.reply 0 (.new 9)) 5]
  have ran : (runWhile sampleHal admits replied sampleMachine).any (fun machine =>
      machine.kernel.sched.running = some 0 ∧
        (perform sampleHal (.terminate 0 6) machine).state?.any fun killed =>
          (runWhile sampleHal others [.syscall 1 (.recv 2) 7] killed).any fun later =>
            later.kernel.threadState 0 = some .runnable) := by
    decide +kernel
  obtain ⟨machine, reached, continues⟩ := (Option.any_eq_true _ _).1 ran
  obtain ⟨runs, continues⟩ := of_decide_eq_true continues
  obtain ⟨killed, taken, continues⟩ := (Option.any_eq_true _ _).1 continues
  obtain ⟨later, received, revived⟩ := (Option.any_eq_true _ _).1 continues
  have before := reaches_runWhile sampleHal (.refl sampleMachine) reached
  have afterwards := reaches_runWhile sampleHal (.refl killed) received
  have stillDead := claimed machine killed later 0 6
    ⟨sampleMachine, sampleMachine_boots, before⟩ runs taken afterwards
  rw [of_decide_eq_true revived] at stillDead
  simp at stillDead

end Machine

end Simurgh
