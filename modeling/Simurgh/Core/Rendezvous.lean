import Simurgh.Core.Run
import Simurgh.Core.Threads

/-!
# Two orders of one rendezvous

A receiver may come to an endpoint before its caller or after it.  The two orders run
through different code: the message is handed over with a switch, or it is queued and
returned from `Recv`.  They end in the same state but for the times at which the two
threads became ready and the place where the receiver finds the message.
-/

namespace Simurgh

/-! ## The scheduler's part -/

namespace Scheduler

variable {NT NCG : Nat} {sched : Scheduler NT NCG} {thread : ThreadId}

theorem setReady_frame (thread : ThreadId) (nowNs : Nat) (sched : Scheduler NT NCG) :
    sched.setReady thread nowNs =
      { sched with entities := (sched.setReady thread nowNs).entities } := by
  unfold setReady updateEntity
  cases sched.entity thread with
  | none => rfl
  | some entity => rfl

theorem setBlocked_frame (admitted : (sched.entity thread).isSome) :
    sched.setBlocked thread =
      { sched with
        entities := (sched.setBlocked thread).entities
        running := if sched.running = some thread then none else sched.running } := by
  obtain ⟨entity, present⟩ := Option.isSome_iff_exists.1 admitted
  unfold setBlocked updateEntity
  rw [present]

theorem running_setBlocked_of_some (admitted : (sched.entity thread).isSome) :
    (sched.setBlocked thread).running =
      if sched.running = some thread then none else sched.running := by
  rw [setBlocked_frame admitted]

theorem entity_setReady (thread : ThreadId) (nowNs : Nat) (sched : Scheduler NT NCG)
    (other : ThreadId) :
    (sched.setReady thread nowNs).entity other =
      if other = thread then
        (sched.entity other).map fun entity =>
          { entity with state := .ready, becameReadyNs := nowNs }
      else sched.entity other :=
  entity_updateEntity ..

theorem isSome_entity_setReady (thread : ThreadId) (nowNs : Nat) (sched : Scheduler NT NCG)
    (other : ThreadId) :
    ((sched.setReady thread nowNs).entity other).isSome = (sched.entity other).isSome := by
  rw [entity_setReady]
  by_cases same : other = thread
  · simp [same]
  · simp [same]

theorem isSome_entity_setBlocked (thread : ThreadId) (sched : Scheduler NT NCG)
    (other : ThreadId) :
    ((sched.setBlocked thread).entity other).isSome = (sched.entity other).isSome := by
  rw [entity_setBlocked]
  by_cases same : other = thread
  · simp [same]
  · simp [same]

end Scheduler

/-- Everything but the entities and the running thread is the same. -/
structure Scheduler.SameClock {NT NCG : Nat} (first second : Scheduler NT NCG) : Prop where
  groups : first.groups = second.groups
  runningSinceNs : first.runningSinceNs = second.runningSinceNs
  quantumNs : first.quantumNs = second.quantumNs

namespace Scheduler.SameClock

variable {NT NCG : Nat} {first second third : Scheduler NT NCG}

theorem symm (same : SameClock first second) : SameClock second first :=
  ⟨same.groups.symm, same.runningSinceNs.symm, same.quantumNs.symm⟩

theorem trans (one : SameClock first second) (two : SameClock second third) :
    SameClock first third where
  groups := one.groups.trans two.groups
  runningSinceNs := one.runningSinceNs.trans two.runningSinceNs
  quantumNs := one.quantumNs.trans two.quantumNs

theorem setReady (same : SameClock first second) (thread : ThreadId) (nowNs : Nat) :
    SameClock first (second.setReady thread nowNs) := by
  refine same.trans ?_
  rw [setReady_frame]
  exact ⟨rfl, rfl, rfl⟩

theorem setBlocked (same : SameClock first second) {thread : ThreadId}
    (admitted : (second.entity thread).isSome) : SameClock first (second.setBlocked thread) := by
  refine same.trans ?_
  rw [setBlocked_frame admitted]
  exact ⟨rfl, rfl, rfl⟩

end Scheduler.SameClock

/-- What is left of an entity without what making it ready sets. -/
def SchedEntity.unready (entity : SchedEntity) : SchedEntity :=
  { entity with state := .blocked, becameReadyNs := 0 }

/-- What is left of an entity without the time at which it became ready. -/
def SchedEntity.untimed (entity : SchedEntity) : SchedEntity :=
  { entity with becameReadyNs := 0 }

/-- Who calls whom, through which capabilities, and what is said. -/
structure Rendezvous where
  caller : ThreadId
  receiver : ThreadId
  callerCap : CapId
  receiverCap : CapId
  request : SmallMessage
  reply : SmallMessage
  deriving DecidableEq, Repr

/-- What is left of a control block without the fields that a message arrives in. -/
def Tcb.withoutPending (tcb : Tcb) : Tcb :=
  { tcb with pendingMsg := none, pendingFrom := none }

namespace KernelState

/-! ## Calls that succeed -/

section Calls

variable {state : KernelState} {caller : ThreadId} {csId : CapSpaceId} {eid : EndpointId}
variable {ep : KEndpoint} {endpoint : CapId} {nowNs : Nat}

theorem blockCaller_run (admitted : (state.sched.entity caller).isSome)
    (blocked : ThreadState) :
    blockCaller caller blocked state = .ok () (state.block caller blocked) := by
  obtain ⟨entity, present⟩ := Option.isSome_iff_exists.1 admitted
  unfold blockCaller
  rw [Exec.modify_bind_run]
  refine Exec.zoom_eq_ok.2 ⟨state.sched.setBlocked caller, ?_, rfl⟩
  rw [sched_updateTcb]
  simp [Scheduler.noteBlocked, Scheduler.setBlocked, Scheduler.updateEntity, present]

/-- A receiver that comes first waits. -/
theorem doRecv_waits (holds : state.Holds caller csId endpoint .endpoint .read eid)
    (present : state.endpoints.get? eid = some ep) (noSender : ep.senders = [])
    (room : ep.receivers.length < endpointQueue)
    (admitted : (state.sched.entity caller).isSome) :
    let after := (state.putEndpoint eid
      { ep with receivers := ep.receivers ++ [{ thread := caller, msg := .new 0 }] }).block
        caller .blockedOnRecv
    doRecv caller endpoint nowNs state = .ok (.reschedule after.sched.pickNext) after := by
  intro after
  obtain ⟨held, resolved, rfl⟩ := holds.resolve
  let put := state.putEndpoint held.object.id
    { ep with receivers := ep.receivers ++ [{ thread := caller, msg := .new 0 }] }
  have there : (put.sched.entity caller).isSome := admitted
  unfold doRecv
  rw [Exec.get_bind_run, resolved, Exec.ofExcept_ok, Exec.pure_bind_run, onEndpoint,
    Exec.bind_of_ok (onObject_of_ok present
      (Endpoint.tryRecv_of_room noSender room caller))]
  change (blockCaller caller .blockedOnRecv >>= _) put = _
  rw [Exec.bind_of_ok (blockCaller_run there _)]
  rfl

/-- A receiver that comes second returns with the message. -/
theorem doRecv_takes (holds : state.Holds caller csId endpoint .endpoint .read eid)
    (present : state.endpoints.get? eid = some ep) {sender : Waiter} {rest : List Waiter}
    (waiting : ep.senders = sender :: rest) :
    doRecv caller endpoint nowNs state =
      .ok (.message sender.thread sender.msg)
        ((state.putEndpoint eid { ep with senders := rest }).release sender.thread nowNs) := by
  obtain ⟨held, resolved, rfl⟩ := holds.resolve
  unfold doRecv
  rw [Exec.get_bind_run, resolved, Exec.ofExcept_ok, Exec.pure_bind_run, onEndpoint,
    Exec.bind_of_ok (onObject_of_ok present
      (Endpoint.tryRecv_of_sender waiting caller true))]
  change (Exec.modify _ >>= _) (state.putEndpoint held.object.id _) = _
  rw [Exec.modify_bind_run, Exec.bind_of_ok (release_run ..)]
  rfl

/-- A `Call` that finds a receiver hands over to it. -/
theorem doSend_hands (holds : state.Holds caller csId endpoint .endpoint .write eid)
    (present : state.endpoints.get? eid = some ep) {receiver : Waiter} {rest : List Waiter}
    (waiting : ep.receivers = receiver :: rest)
    (ready : (state.sched.entity receiver.thread).isSome)
    (admitted : (state.sched.entity caller).isSome) (msg : SmallMessage) :
    doSend caller endpoint msg true nowNs state =
      .ok (.reschedule (some receiver.thread))
        (((state.putEndpoint eid
          { ep with receivers := rest, pendingDelivery := none }).handOver
            receiver.thread caller msg nowNs).block caller .blockedOnReply) := by
  obtain ⟨held, resolved, rfl⟩ := holds.resolve
  let taken := state.putEndpoint held.object.id
    { ep with receivers := rest, pendingDelivery := none }
  have fast : state.fastPath held.object.id msg true = true := by
    have short : ¬ msgMaxWords < msg.len.val :=
      Nat.not_lt_of_le (Nat.le_of_lt_succ msg.len.isLt)
    simp [fastPath, present, fastPathEligible, short, Endpoint.blockedReceiver, waiting]
  have stillThere : ((taken.handOver receiver.thread caller msg nowNs).sched.entity
      caller).isSome := by
    change ((state.sched.setReady receiver.thread nowNs).entity caller).isSome = true
    rw [Scheduler.isSome_entity_setReady]
    exact admitted
  unfold doSend
  rw [Exec.get_bind_run, resolved, Exec.ofExcept_ok, Exec.pure_bind_run, onEndpoint,
    Exec.bind_of_ok (onObject_of_ok present
      (Endpoint.trySend_of_receiver waiting caller msg true))]
  change (takeDeliveredAt held.object.id >>= _) (state.putEndpoint held.object.id _) = _
  rw [Exec.bind_of_ok (takeDeliveredAt_run present)]
  have readyThere : (taken.sched.entity receiver.thread).isSome := ready
  change (deliver caller nowNs (some (receiver.thread, msg)) >>= _) taken = _
  rw [Exec.bind_of_ok (deliver_of_some readyThere), if_pos rfl,
    Exec.bind_of_ok (blockCaller_run stillThere _), Exec.get_bind_run, fast, if_pos rfl]
  rfl

/-- A `Call` that finds nobody waits in the queue. -/
theorem doSend_waits (holds : state.Holds caller csId endpoint .endpoint .write eid)
    (present : state.endpoints.get? eid = some ep) (noReceiver : ep.receivers = [])
    (room : ep.senders.length < endpointQueue)
    (admitted : (state.sched.entity caller).isSome) (msg : SmallMessage) :
    let after := (state.putEndpoint eid
      { ep with senders := ep.senders ++ [{ thread := caller, msg }] }).block
        caller .blockedOnReply
    doSend caller endpoint msg true nowNs state =
      .ok (.reschedule after.sched.pickNext) after := by
  intro after
  obtain ⟨held, resolved, rfl⟩ := holds.resolve
  let put := state.putEndpoint held.object.id
    { ep with senders := ep.senders ++ [{ thread := caller, msg }] }
  have there : (put.sched.entity caller).isSome := admitted
  unfold doSend
  rw [Exec.get_bind_run, resolved, Exec.ofExcept_ok, Exec.pure_bind_run, onEndpoint,
    Exec.bind_of_ok (onObject_of_ok present
      (Endpoint.trySend_of_room noReceiver room caller msg))]
  change (blockCaller caller .blockedOnReply >>= _) put = _
  rw [Exec.bind_of_ok (blockCaller_run there _)]
  rfl

/-- A reply to a thread that waits for it. -/
theorem doReply_run {toThread : ThreadId} (ne : caller ≠ toThread)
    (awaits : state.isBlockedOnReply toThread = true)
    (target : (state.sched.entity toThread).isSome)
    (admitted : (state.sched.entity caller).isSome) (msg : SmallMessage) :
    doReply caller toThread msg nowNs state =
      .ok (.reschedule (some toThread))
        { state.storeReply toThread msg with
          sched := (state.sched.setReady toThread nowNs).setReady caller nowNs } := by
  have distinct : (caller != toThread) = true := by simp [ne]
  have still : ((state.sched.setReady toThread nowNs).entity caller).isSome := by
    rw [Scheduler.isSome_entity_setReady]
    exact admitted
  simp only [doReply, distinct, Exec.guard, if_true, Exec.pure_bind_run, Exec.get_bind_run,
    awaits, Exec.modify_bind_run]
  change (onSched (Scheduler.noteReady toThread nowNs) >>= _)
    (state.storeReply toThread msg) = _
  have second : onSched (Scheduler.noteReady caller nowNs)
      { state.storeReply toThread msg with sched := state.sched.setReady toThread nowNs } =
      .ok () { state.storeReply toThread msg with
        sched := (state.sched.setReady toThread nowNs).setReady caller nowNs } := by
    rw [onSched, Exec.zoom, Scheduler.noteReady_of_some still]
  rw [Exec.bind_of_ok (noteReady_storeReply_of_some target), Exec.bind_of_ok second]
  rfl

end Calls

/-! ## What a rendezvous touches -/

/-- Only endpoints, threads and the scheduler differ. -/
def IpcOnly (before after : KernelState) : Prop :=
  after =
    { before with endpoints := after.endpoints, tcbs := after.tcbs, sched := after.sched }

namespace IpcOnly

variable {before middle after : KernelState}

theorem symm (only : IpcOnly before after) : IpcOnly after before := by
  unfold IpcOnly at *
  rw [only]

theorem trans (first : IpcOnly before middle) (second : IpcOnly middle after) :
    IpcOnly before after := by
  unfold IpcOnly at *
  rw [second, first]

theorem putEndpoint (only : IpcOnly before after) (eid : EndpointId) (ep : KEndpoint) :
    IpcOnly before (after.putEndpoint eid ep) :=
  only.trans rfl

theorem updateTcb (only : IpcOnly before after) (id : ThreadId) (update : Tcb → Tcb)
    (sched : KScheduler) : IpcOnly before { after.updateTcb id update with sched } := by
  refine only.trans ?_
  unfold IpcOnly
  rw [updateTcb_frame]

end IpcOnly

/-- Threads keep their capability spaces. -/
theorem callerCapSpace_updateTcb (state : KernelState) (thread other : ThreadId)
    (update : Tcb → Tcb) (keeps : ∀ tcb, (update tcb).capSpace = tcb.capSpace) :
    (state.updateTcb thread update).callerCapSpace other = state.callerCapSpace other := by
  unfold callerCapSpace
  rw [tcb_updateTcb]
  by_cases same : other = thread
  · rw [if_pos same]
    cases state.tcb other with
    | none => rfl
    | some tcb => exact congrArg Except.ok (keeps tcb)
  · rw [if_neg same]

/-- The threads after one of them has changed. -/
def alter (thread : ThreadId) (change : Tcb → Tcb) (threads : ThreadId → Option Tcb)
    (tid : ThreadId) : Option Tcb :=
  if tid = thread then (threads tid).map change else threads tid

/-- How far a rendezvous at `eid` has come: the endpoint, the threads and the scheduler
are as given, and everything else is as before. -/
structure Stage (before : KernelState) (eid : EndpointId) (ep : KEndpoint)
    (threads : ThreadId → Option Tcb) (sched : KScheduler) (after : KernelState) : Prop where
  only : IpcOnly before after
  endpoints : after.endpoints = before.endpoints.put eid ep
  threads : ∀ tid, after.tcb tid = threads tid
  sched : after.sched = sched
  spaces : ∀ tid, after.callerCapSpace tid = before.callerCapSpace tid

namespace Stage

variable {before after : KernelState} {eid : EndpointId} {ep : KEndpoint}
variable {threads : ThreadId → Option Tcb} {sched : KScheduler}

theorem start (present : before.endpoints.get? eid = some ep) :
    Stage before eid ep before.tcb before.sched before where
  only := rfl
  endpoints := (Slab.put_self present).symm
  threads := fun _ => rfl
  sched := rfl
  spaces := fun _ => rfl

theorem present (stage : Stage before eid ep threads sched after)
    (inside : eid < maxEndpoints) : after.endpoints.get? eid = some ep := by
  rw [stage.endpoints]
  exact Slab.get?_put_self inside ep

/-- Capabilities do not depend on endpoints, or on what threads wait for. -/
theorem holds (stage : Stage before eid ep threads sched after) {caller : ThreadId}
    {csId : CapSpaceId} {cap : CapId} {kind : KernelObjectKind} {needed : CapabilityRights}
    {id : ObjectId} (holds : before.Holds caller csId cap kind needed id) :
    after.Holds caller csId cap kind needed id where
  space := (stage.spaces caller).trans holds.space
  held := by
    rw [stage.only]
    exact holds.held

theorem putEndpoint (stage : Stage before eid ep threads sched after) (new : KEndpoint) :
    Stage before eid new threads sched (after.putEndpoint eid new) where
  only := stage.only.putEndpoint eid new
  endpoints := by
    change after.endpoints.put eid new = _
    rw [stage.endpoints, Slab.put_put]
  threads := stage.threads
  sched := stage.sched
  spaces := stage.spaces

/-- One thread changes, and the scheduler with it. -/
theorem updateTcb (stage : Stage before eid ep threads sched after) (thread : ThreadId)
    (change : Tcb → Tcb) (keeps : ∀ tcb, (change tcb).capSpace = tcb.capSpace)
    (later : KScheduler) :
    Stage before eid ep (alter thread change threads) later
      { after.updateTcb thread change with sched := later } where
  only := stage.only.updateTcb thread change later
  endpoints := by
    rw [updateTcb_frame]
    exact stage.endpoints
  threads := by
    intro tid
    refine (tcb_updateTcb ..).trans ?_
    rw [stage.threads]
    rfl
  sched := rfl
  spaces := fun tid => (callerCapSpace_updateTcb _ _ _ _ keeps).trans (stage.spaces tid)

theorem block (stage : Stage before eid ep threads sched after) (thread : ThreadId)
    (blocked : ThreadState) :
    Stage before eid ep (alter thread (fun tcb => { tcb with state := blocked }) threads)
      (sched.setBlocked thread) (after.block thread blocked) := by
  rw [← stage.sched]
  refine stage.updateTcb thread _ ?_ _
  exact fun _ => rfl

theorem handOver (stage : Stage before eid ep threads sched after)
    (receiver sender : ThreadId) (msg : SmallMessage) (nowNs : Nat) :
    Stage before eid ep
      (alter receiver (fun tcb =>
        { tcb with pendingMsg := some msg, pendingFrom := some sender, state := .runnable })
        threads)
      (sched.setReady receiver nowNs) (after.handOver receiver sender msg nowNs) := by
  rw [← stage.sched]
  refine stage.updateTcb receiver _ ?_ _
  exact fun _ => rfl

theorem release (stage : Stage before eid ep threads sched after) (sender : ThreadId)
    (nowNs : Nat) :
    Stage before eid ep
      (alter sender (fun tcb =>
        if tcb.state ≠ .blockedOnReply then { tcb with state := .runnable } else tcb) threads)
      (sched.setReady sender nowNs) (after.release sender nowNs) := by
  rw [← stage.sched]
  refine stage.updateTcb sender _ (fun tcb => ?_) _
  split
  · rfl
  · rfl

theorem storeReply (stage : Stage before eid ep threads sched after) (toThread : ThreadId)
    (msg : SmallMessage) (later : KScheduler) :
    Stage before eid ep
      (alter toThread (fun tcb => { tcb with pendingMsg := some msg, state := .runnable })
        threads)
      later { after.storeReply toThread msg with sched := later } := by
  refine stage.updateTcb toThread _ ?_ later
  exact fun _ => rfl

end Stage

/-! ## Before and after -/

/-- Two runnable threads that the scheduler knows hold the rights to meet at an idle
endpoint. -/
structure CanMeet (state : KernelState) (meeting : Rendezvous) (eid : EndpointId) : Prop where
  distinct : meeting.receiver ≠ meeting.caller
  callerRuns : state.threadState meeting.caller = some .runnable
  receiverRuns : state.threadState meeting.receiver = some .runnable
  callerAdmitted : (state.sched.entity meeting.caller).isSome
  receiverAdmitted : (state.sched.entity meeting.receiver).isSome
  callerHolds : ∃ csId,
    state.Holds meeting.caller csId meeting.callerCap .endpoint .write eid
  receiverHolds : ∃ csId,
    state.Holds meeting.receiver csId meeting.receiverCap .endpoint .read eid
  idle : ∃ ep, state.endpoints.get? eid = some ep ∧ ep.isIdle = true

/-- The rendezvous is over.  The receiver's control block changed as `found` says. -/
structure Finishes (before : KernelState) (meeting : Rendezvous) (found : Tcb → Tcb)
    (nowNs : Nat) (running : Option ThreadId) (after : KernelState) : Prop where
  only : IpcOnly before after
  endpoints : after.endpoints = before.endpoints
  threads : ∀ tid, after.tcb tid =
    if tid = meeting.caller then
      (before.tcb tid).map fun tcb => { tcb with pendingMsg := some meeting.reply }
    else if tid = meeting.receiver then (before.tcb tid).map found
    else before.tcb tid
  entities : ∀ tid, after.sched.entity tid =
    if tid = meeting.caller ∨ tid = meeting.receiver then
      (before.sched.entity tid).map fun entity =>
        { entity with state := .ready, becameReadyNs := nowNs }
    else before.sched.entity tid
  clock : Scheduler.SameClock before.sched after.sched
  running : after.sched.running = running

/-- Two threads that can meet, with their capabilities looked up. -/
theorem CanMeet.of_resolve {state : KernelState} {meeting : Rendezvous} {eid : EndpointId}
    (distinct : meeting.receiver ≠ meeting.caller)
    (runs : state.threadState meeting.caller = some .runnable ∧
      state.threadState meeting.receiver = some .runnable)
    (admitted : (state.sched.entity meeting.caller).isSome ∧
      (state.sched.entity meeting.receiver).isSome)
    (named : (state.resolve meeting.caller meeting.callerCap .endpoint .write).toOption.map
        (fun cap => cap.object.id) = some eid ∧
      (state.resolve meeting.receiver meeting.receiverCap .endpoint .read).toOption.map
        (fun cap => cap.object.id) = some eid)
    (idle : (state.endpoints.get? eid).any Endpoint.isIdle) : state.CanMeet meeting eid := by
  have holds : ∀ {thread cap needed},
      (state.resolve thread cap .endpoint needed).toOption.map (fun cap => cap.object.id) =
        some eid → ∃ csId, state.Holds thread csId cap .endpoint needed eid := by
    intro thread cap needed found
    obtain ⟨held, looked, rfl⟩ := Option.map_eq_some_iff.1 found
    cases resolved : state.resolve thread cap .endpoint needed with
    | error error => simp [resolved, Except.toOption] at looked
    | ok other =>
        obtain rfl : other = held := by simpa [resolved, Except.toOption] using looked
        exact holds_of_resolve resolved
  exact {
    distinct
    callerRuns := runs.1
    receiverRuns := runs.2
    callerAdmitted := admitted.1
    receiverAdmitted := admitted.2
    callerHolds := holds named.1
    receiverHolds := holds named.2
    idle := (Option.any_eq_true _ _).1 idle }

section Meeting

variable {state : KernelState} {meeting : Rendezvous} {eid : EndpointId}

/-- The state of a thread in its control block. -/
theorem exists_tcb_of_threadState {tid : ThreadId} {threadState : ThreadState}
    (there : state.threadState tid = some threadState) :
    ∃ tcb, state.tcb tid = some tcb ∧ tcb.state = threadState :=
  Option.map_eq_some_iff.1 there

/-- The reply that ends a rendezvous.  Until then the caller awaits it, and the receiver
is as `found` says. -/
private theorem reply_finishes (can : state.CanMeet meeting eid) (found : Tcb → Tcb)
    {threads : ThreadId → Option Tcb} {sched : KScheduler} {before : KernelState}
    (stage : Stage state eid .new threads sched before)
    (callerAwaits : threads meeting.caller =
      (state.tcb meeting.caller).map fun tcb => { tcb with state := .blockedOnReply })
    (receiverFound : threads meeting.receiver = (state.tcb meeting.receiver).map found)
    (others : ∀ tid, tid ≠ meeting.caller → tid ≠ meeting.receiver →
      threads tid = state.tcb tid)
    (entities : ∀ tid, (sched.entity tid).map SchedEntity.unready =
      (state.sched.entity tid).map SchedEntity.unready)
    (sameOthers : ∀ tid, tid ≠ meeting.caller → tid ≠ meeting.receiver →
      sched.entity tid = state.sched.entity tid)
    (clock : Scheduler.SameClock state.sched sched) (replyNs : Nat) :
    ∃ after,
      doReply meeting.receiver meeting.caller meeting.reply replyNs before =
          .ok (.reschedule (some meeting.caller)) after ∧
        Finishes state meeting found replyNs sched.running after := by
  obtain ⟨ep, present, isIdle⟩ := can.idle
  obtain rfl := Endpoint.eq_new_of_isIdle isIdle
  obtain ⟨callerTcb, callerThere, callerRuns⟩ := exists_tcb_of_threadState can.callerRuns
  have apart := can.distinct
  have awaits : before.isBlockedOnReply meeting.caller = true := by
    unfold isBlockedOnReply
    rw [stage.threads, callerAwaits, callerThere]
    rfl
  have knows : ∀ tid, (before.sched.entity tid).isSome = (state.sched.entity tid).isSome := by
    intro tid
    have same := congrArg Option.isSome (entities tid)
    rw [stage.sched]
    simpa using same
  have replied := @doReply_run before meeting.receiver replyNs meeting.caller apart awaits
    ((knows _).trans can.callerAdmitted) ((knows _).trans can.receiverAdmitted) meeting.reply
  refine ⟨_, replied, ?_⟩
  have last := stage.storeReply meeting.caller meeting.reply
    ((before.sched.setReady meeting.caller replyNs).setReady meeting.receiver replyNs)
  have readied : ∀ tid, (sched.entity tid).map (fun entity =>
      { entity with state := .ready, becameReadyNs := replyNs }) =
      (state.sched.entity tid).map fun entity =>
        { entity with state := .ready, becameReadyNs := replyNs } := by
    intro tid
    have same := congrArg (Option.map fun entity : SchedEntity =>
      { entity with state := .ready, becameReadyNs := replyNs }) (entities tid)
    simpa only [Option.map_map, Function.comp_def, SchedEntity.unready] using same
  refine ⟨last.only, last.endpoints.trans (Slab.put_self present), fun tid => ?_,
    fun tid => ?_, ?_, ?_⟩
  · rw [last.threads, alter]
    by_cases isCaller : tid = meeting.caller
    · subst isCaller
      rw [if_pos rfl, if_pos rfl, callerAwaits, callerThere]
      simp only [Option.map_some, ← callerRuns]
    · rw [if_neg isCaller, if_neg isCaller]
      by_cases isReceiver : tid = meeting.receiver
      · rw [if_pos isReceiver, isReceiver, receiverFound]
      · rw [if_neg isReceiver, others tid isCaller isReceiver]
  · change ((before.sched.setReady meeting.caller replyNs).setReady meeting.receiver
      replyNs).entity tid = _
    rw [stage.sched, Scheduler.entity_setReady, Scheduler.entity_setReady]
    by_cases isReceiver : tid = meeting.receiver
    · rw [if_pos isReceiver, if_neg (isReceiver ▸ apart), if_pos (Or.inr isReceiver), readied]
    · rw [if_neg isReceiver]
      by_cases isCaller : tid = meeting.caller
      · rw [if_pos isCaller, if_pos (Or.inl isCaller), readied]
      · rw [if_neg isCaller, if_neg (not_or.2 ⟨isCaller, isReceiver⟩),
          sameOthers tid isCaller isReceiver]
  · rw [last.sched, stage.sched]
    exact (clock.setReady _ _).setReady _ _
  · rw [last.sched, stage.sched, Scheduler.running_setReady, Scheduler.running_setReady]

/-- Blocking a thread and making it ready are all that happens to entities. -/
private theorem unready_setBlocked (thread tid : ThreadId) (sched : KScheduler) :
    ((sched.setBlocked thread).entity tid).map SchedEntity.unready =
      (sched.entity tid).map SchedEntity.unready := by
  rw [Scheduler.entity_setBlocked]
  by_cases same : tid = thread
  · rw [if_pos same, Option.map_map]
    rfl
  · rw [if_neg same]

private theorem unready_setReady (thread tid : ThreadId) (nowNs : Nat) (sched : KScheduler) :
    ((sched.setReady thread nowNs).entity tid).map SchedEntity.unready =
      (sched.entity tid).map SchedEntity.unready := by
  rw [Scheduler.entity_setReady]
  by_cases same : tid = thread
  · rw [if_pos same, Option.map_map]
    rfl
  · rw [if_neg same]

/-- First the receiver waits, then it is called, then it replies. -/
theorem recvFirst_calls (can : state.CanMeet meeting eid) (recvNs callNs replyNs : Nat) :
    ∃ next waiting handed after served,
      doRecv meeting.receiver meeting.receiverCap recvNs state =
          .ok (.reschedule next) waiting ∧
        doSend meeting.caller meeting.callerCap meeting.request true callNs waiting =
          .ok (.reschedule (some meeting.receiver)) handed ∧
        handed.tcb meeting.receiver = some served ∧
        served.pendingMsg = some meeting.request ∧ served.pendingFrom = some meeting.caller ∧
        doReply meeting.receiver meeting.caller meeting.reply replyNs handed =
          .ok (.reschedule (some meeting.caller)) after ∧
        Finishes state meeting
          (fun tcb => { tcb with
            pendingMsg := some meeting.request, pendingFrom := some meeting.caller })
          replyNs
          (if state.sched.running = some meeting.caller ∨
              state.sched.running = some meeting.receiver then none
            else state.sched.running)
          after := by
  obtain ⟨ep, present, isIdle⟩ := can.idle
  obtain rfl := Endpoint.eq_new_of_isIdle isIdle
  obtain ⟨callerSpace, callerHolds⟩ := can.callerHolds
  obtain ⟨receiverSpace, receiverHolds⟩ := can.receiverHolds
  obtain ⟨receiverTcb, receiverThere, receiverRuns⟩ :=
    exists_tcb_of_threadState can.receiverRuns
  have apart := can.distinct
  have inside := Slab.lt_of_get? present
  let blocked := state.sched.setBlocked meeting.receiver
  let readied := blocked.setReady meeting.receiver callNs
  let queued : KEndpoint :=
    { (.new : KEndpoint) with receivers := [{ thread := meeting.receiver, msg := .new 0 }] }
  -- The receiver waits.
  have recv := @doRecv_waits _ _ _ _ _ _ recvNs receiverHolds present rfl
    (by decide) can.receiverAdmitted
  have waits := ((Stage.start present).putEndpoint queued).block meeting.receiver
    .blockedOnRecv
  -- The caller finds it, hands the message over and awaits the reply.
  have receiverKnown : (blocked.entity meeting.receiver).isSome := by
    rw [Scheduler.isSome_entity_setBlocked]
    exact can.receiverAdmitted
  have callerKnown : (blocked.entity meeting.caller).isSome := by
    rw [Scheduler.isSome_entity_setBlocked]
    exact can.callerAdmitted
  have callerStill : (readied.entity meeting.caller).isSome := by
    rw [Scheduler.isSome_entity_setReady]
    exact callerKnown
  have call := @doSend_hands _ _ _ _ _ _ callNs (waits.holds callerHolds)
    (waits.present inside) _ _ rfl receiverKnown callerKnown meeting.request
  have hands := ((waits.putEndpoint .new).handOver meeting.receiver meeting.caller
    meeting.request callNs).block meeting.caller .blockedOnReply
  have served := hands.threads meeting.receiver
  simp only [alter, if_neg apart, if_true, receiverThere, Option.map_some] at served
  -- The receiver replies.
  have others : ∀ tid, tid ≠ meeting.caller → tid ≠ meeting.receiver →
      (readied.setBlocked meeting.caller).entity tid = state.sched.entity tid := by
    intro tid notCaller notReceiver
    rw [Scheduler.entity_setBlocked, if_neg notCaller, Scheduler.entity_setReady,
      if_neg notReceiver, Scheduler.entity_setBlocked, if_neg notReceiver]
  have entities : ∀ tid,
      ((readied.setBlocked meeting.caller).entity tid).map SchedEntity.unready =
        (state.sched.entity tid).map SchedEntity.unready := by
    intro tid
    rw [unready_setBlocked, unready_setReady, unready_setBlocked]
  have clock : Scheduler.SameClock state.sched (readied.setBlocked meeting.caller) :=
    ((Scheduler.SameClock.setBlocked ⟨rfl, rfl, rfl⟩ can.receiverAdmitted).setReady _
      callNs).setBlocked callerStill
  obtain ⟨after, reply, finishes⟩ := reply_finishes can
    (fun tcb => { tcb with
      pendingMsg := some meeting.request, pendingFrom := some meeting.caller })
    hands (by simp [alter, apart.symm])
    (by simp [alter, apart, receiverThere, ← receiverRuns])
    (fun tid notCaller notReceiver => by simp [alter, notCaller, notReceiver])
    entities others clock replyNs
  have running : (readied.setBlocked meeting.caller).running =
      if state.sched.running = some meeting.caller ∨
          state.sched.running = some meeting.receiver then none
        else state.sched.running := by
    rw [Scheduler.running_setBlocked_of_some callerStill, Scheduler.running_setReady,
      Scheduler.running_setBlocked_of_some can.receiverAdmitted]
    by_cases runsReceiver : state.sched.running = some meeting.receiver
    · simp [runsReceiver]
    · simp [runsReceiver]
  exact ⟨_, _, _, after, _, recv, call, served, rfl, rfl, reply, running ▸ finishes⟩

/-- First the caller waits, then its message is taken, then it is replied to. -/
theorem callFirst_calls (can : state.CanMeet meeting eid) (callNs recvNs replyNs : Nat) :
    ∃ next waiting taken after,
      doSend meeting.caller meeting.callerCap meeting.request true callNs state =
          .ok (.reschedule next) waiting ∧
        doRecv meeting.receiver meeting.receiverCap recvNs waiting =
          .ok (.message meeting.caller meeting.request) taken ∧
        doReply meeting.receiver meeting.caller meeting.reply replyNs taken =
          .ok (.reschedule (some meeting.caller)) after ∧
        Finishes state meeting id replyNs
          (if state.sched.running = some meeting.caller then none else state.sched.running)
          after := by
  obtain ⟨ep, present, isIdle⟩ := can.idle
  obtain rfl := Endpoint.eq_new_of_isIdle isIdle
  obtain ⟨callerSpace, callerHolds⟩ := can.callerHolds
  obtain ⟨receiverSpace, receiverHolds⟩ := can.receiverHolds
  have apart := can.distinct
  have inside := Slab.lt_of_get? present
  let blocked := state.sched.setBlocked meeting.caller
  let queued : KEndpoint :=
    { (.new : KEndpoint) with
      senders := [{ thread := meeting.caller, msg := meeting.request }] }
  -- The caller waits, and awaits its reply already.
  have call := @doSend_waits _ _ _ _ _ _ callNs callerHolds present rfl (by decide)
    can.callerAdmitted meeting.request
  have waits := ((Stage.start present).putEndpoint queued).block meeting.caller
    .blockedOnReply
  -- The receiver takes the message.
  have recv := @doRecv_takes _ _ _ _ _ _ recvNs (waits.holds receiverHolds)
    (waits.present inside) _ _ rfl
  have takes := (waits.putEndpoint .new).release meeting.caller recvNs
  -- The receiver replies.
  have others : ∀ tid, tid ≠ meeting.caller → tid ≠ meeting.receiver →
      (blocked.setReady meeting.caller recvNs).entity tid = state.sched.entity tid := by
    intro tid notCaller _
    rw [Scheduler.entity_setReady, if_neg notCaller, Scheduler.entity_setBlocked,
      if_neg notCaller]
  have entities : ∀ tid,
      ((blocked.setReady meeting.caller recvNs).entity tid).map SchedEntity.unready =
        (state.sched.entity tid).map SchedEntity.unready := by
    intro tid
    rw [unready_setReady, unready_setBlocked]
  have clock : Scheduler.SameClock state.sched (blocked.setReady meeting.caller recvNs) :=
    (Scheduler.SameClock.setBlocked ⟨rfl, rfl, rfl⟩ can.callerAdmitted).setReady _ recvNs
  obtain ⟨after, reply, finishes⟩ := reply_finishes can id takes
    (by simp [alter, Function.comp_def]) (by simp [alter, apart])
    (fun tid notCaller notReceiver => by simp [alter, notCaller])
    entities others clock replyNs
  have running : (blocked.setReady meeting.caller recvNs).running =
      if state.sched.running = some meeting.caller then none else state.sched.running := by
    rw [Scheduler.running_setReady, Scheduler.running_setBlocked_of_some can.callerAdmitted]
  exact ⟨_, _, _, after, call, recv, reply, running ▸ finishes⟩

/-! ## The end of a rendezvous -/

/-- The caller has its reply, both threads can go on, and nobody is at the endpoint. -/
structure Served (state : KernelState) (meeting : Rendezvous) (eid : EndpointId) : Prop where
  caller : ∃ tcb, state.tcb meeting.caller = some tcb ∧ tcb.state = .runnable ∧
    tcb.pendingMsg = some meeting.reply
  receiver : state.threadState meeting.receiver = some .runnable
  callerReady : state.sched.runState meeting.caller = some .ready
  receiverReady : state.sched.runState meeting.receiver = some .ready
  idle : ∃ ep, state.endpoints.get? eid = some ep ∧ ep.isIdle = true

/-- The states differ at most in when threads became ready, in which thread runs, and in
the fields in which the receiver may have found the message. -/
structure SameButDelivery (receiver : ThreadId) (first second : KernelState) : Prop where
  only : IpcOnly first second
  endpoints : first.endpoints = second.endpoints
  threads : ∀ tid, tid ≠ receiver → first.tcb tid = second.tcb tid
  receiver : (first.tcb receiver).map Tcb.withoutPending =
    (second.tcb receiver).map Tcb.withoutPending
  entities : ∀ tid, (first.sched.entity tid).map SchedEntity.untimed =
    (second.sched.entity tid).map SchedEntity.untimed
  clock : Scheduler.SameClock first.sched second.sched

variable {found other : Tcb → Tcb} {nowNs laterNs : Nat} {running next : Option ThreadId}
variable {first second : KernelState}

theorem Finishes.served (finishes : Finishes state meeting found nowNs running first)
    (can : state.CanMeet meeting eid) (keeps : ∀ tcb, (found tcb).state = tcb.state) :
    first.Served meeting eid where
  caller := by
    obtain ⟨tcb, there, runs⟩ := exists_tcb_of_threadState can.callerRuns
    refine ⟨{ tcb with pendingMsg := some meeting.reply }, ?_, runs, rfl⟩
    rw [finishes.threads, if_pos rfl, there]
    rfl
  receiver := by
    obtain ⟨tcb, there, runs⟩ := exists_tcb_of_threadState can.receiverRuns
    rw [threadState, finishes.threads, if_neg can.distinct, if_pos rfl, there]
    simp only [Option.map_some, keeps, runs]
  callerReady := by
    obtain ⟨entity, present⟩ := Option.isSome_iff_exists.1 can.callerAdmitted
    rw [Scheduler.runState, finishes.entities, if_pos (Or.inl rfl), present]
    rfl
  receiverReady := by
    obtain ⟨entity, present⟩ := Option.isSome_iff_exists.1 can.receiverAdmitted
    rw [Scheduler.runState, finishes.entities, if_pos (Or.inr rfl), present]
    rfl
  idle := by
    rw [finishes.endpoints]
    exact can.idle

theorem Finishes.same (one : Finishes state meeting found nowNs running first)
    (two : Finishes state meeting other laterNs next second)
    (distinct : meeting.receiver ≠ meeting.caller)
    (agree : ∀ tcb, (found tcb).withoutPending = (other tcb).withoutPending) :
    SameButDelivery meeting.receiver first second where
  only := one.only.symm.trans two.only
  endpoints := one.endpoints.trans two.endpoints.symm
  threads := by
    intro tid notReceiver
    rw [one.threads, two.threads]
    simp only [if_neg notReceiver]
  receiver := by
    rw [one.threads, two.threads, if_neg distinct, if_neg distinct, if_pos rfl, if_pos rfl,
      Option.map_map, Option.map_map]
    exact congrArg (fun change => Option.map change _) (funext agree)
  entities := by
    intro tid
    rw [one.entities, two.entities]
    by_cases party : tid = meeting.caller ∨ tid = meeting.receiver
    · rw [if_pos party, if_pos party, Option.map_map, Option.map_map]
      rfl
    · rw [if_neg party, if_neg party]
  clock := one.clock.symm.trans two.clock

end Meeting

end KernelState

/-! ## The two runs -/

/-- The sender and the message that a call returns. -/
def SyscallReturn.message? : SyscallReturn → Option (ThreadId × SmallMessage)
  | .message sender msg => some (sender, msg)
  | _ => none

namespace Machine

variable {μ : Type} (hal : HalInterface μ)

/-- The sender and the message that a thread finds in its control block. -/
def pending (thread : ThreadId) :
    Exec (Machine μ) SyscallError (Option (ThreadId × SmallMessage)) := do
  let machine ← Exec.get
  return (machine.kernel.tcb thread).bind fun tcb => do
    return (← tcb.pendingFrom, ← tcb.pendingMsg)

/-- `Recv(B); Call(A, m); Reply(B -> A, r)`, and what `B` observes. -/
def recvFirst (meeting : Rendezvous) (recvNs callNs replyNs : Nat) :
    Exec (Machine μ) SyscallError (Option (ThreadId × SmallMessage)) := do
  let _ ← dispatch hal meeting.receiver recvNs (.recv meeting.receiverCap)
  let _ ← dispatch hal meeting.caller callNs (.call meeting.callerCap meeting.request)
  let observed ← pending meeting.receiver
  let _ ← dispatch hal meeting.receiver replyNs (.reply meeting.caller meeting.reply)
  return observed

/-- `Call(A, m); Recv(B); Reply(B -> A, r)`, and what `B` observes. -/
def callFirst (meeting : Rendezvous) (callNs recvNs replyNs : Nat) :
    Exec (Machine μ) SyscallError (Option (ThreadId × SmallMessage)) := do
  let _ ← dispatch hal meeting.caller callNs (.call meeting.callerCap meeting.request)
  let result ← dispatch hal meeting.receiver recvNs (.recv meeting.receiverCap)
  let _ ← dispatch hal meeting.receiver replyNs (.reply meeting.caller meeting.reply)
  return result.message?

/-- Whoever comes first, the rendezvous succeeds, the receiver observes the caller and
its message, and the two runs end in states that differ only in when the two threads
became ready, in where the receiver found the message, and in the running thread when
that was the receiver. -/
theorem rendezvous_orders_agree {machine : Machine μ} {meeting : Rendezvous}
    {eid : EndpointId} (can : machine.kernel.CanMeet meeting eid)
    (recvNs callNs replyNs callNs' recvNs' replyNs' : Nat) :
    ∃ first second,
      recvFirst hal meeting recvNs callNs replyNs machine =
          .ok (some (meeting.caller, meeting.request)) first ∧
        callFirst hal meeting callNs' recvNs' replyNs' machine =
          .ok (some (meeting.caller, meeting.request)) second ∧
        first.kernel.Served meeting eid ∧ second.kernel.Served meeting eid ∧
        first.hw = machine.hw ∧ second.hw = machine.hw ∧
        KernelState.SameButDelivery meeting.receiver first.kernel second.kernel ∧
        (first.kernel.sched.running = second.kernel.sched.running ∨
          machine.kernel.sched.running = some meeting.receiver) := by
  obtain ⟨next, waiting, handed, after, served, recv, call, there, message, sender, reply,
    finishes⟩ := KernelState.recvFirst_calls can recvNs callNs replyNs
  obtain ⟨next', waiting', taken, after', call', recv', reply', finishes'⟩ :=
    KernelState.callFirst_calls can callNs' recvNs' replyNs'
  refine ⟨{ machine with kernel := after }, { machine with kernel := after' }, ?_, ?_,
    finishes.served can fun _ => rfl, finishes'.served can fun _ => rfl, rfl, rfl,
    finishes.same finishes' can.distinct fun _ => rfl, ?_⟩
  · have observed : pending meeting.receiver { machine with kernel := handed } =
        (.ok (some (meeting.caller, meeting.request)) { machine with kernel := handed } :
          Outcome (Machine μ) SyscallError _) := by
      simp [pending, there, message, sender]
    unfold recvFirst dispatch
    rw [Exec.bind_of_ok (onKernel_of_ok recv), Exec.bind_of_ok (onKernel_of_ok call),
      Exec.bind_of_ok observed, Exec.bind_of_ok (onKernel_of_ok reply)]
    rfl
  · unfold callFirst dispatch
    rw [Exec.bind_of_ok (onKernel_of_ok call'), Exec.bind_of_ok (onKernel_of_ok recv'),
      Exec.bind_of_ok (onKernel_of_ok reply')]
    rfl
  · by_cases runsReceiver : machine.kernel.sched.running = some meeting.receiver
    · exact Or.inr runsReceiver
    · refine Or.inl ?_
      change after.sched.running = after'.sched.running
      rw [finishes.running, finishes'.running]
      simp [runsReceiver]

/-- The root task makes an endpoint and a second thread. -/
def meetingPlace : List KernelEvent :=
  [ .tick 0,
    .syscall 0 (.retype 0 .endpoint 1) 1,
    .syscall 0 (.retype 0 .threadControlBlock 1) 2,
    .startThread 1 4096 3 ]

/-- The machine after `meetingPlace`. -/
def meetingMachine : Machine Unit :=
  (runWhile sampleHal (fun _ _ => true) meetingPlace sampleMachine).getD sampleMachine

/-- One of the two threads calls the other. -/
def sampleMeeting (caller receiver : ThreadId) : Rendezvous where
  caller := caller
  receiver := receiver
  callerCap := 2
  receiverCap := 2
  request := .new 7
  reply := .new 8

theorem rendezvous_orders_agree_sample :
    ∃ first second,
      recvFirst sampleHal (sampleMeeting 0 1) 4 5 6 meetingMachine =
          .ok (some (0, .new 7)) first ∧
        callFirst sampleHal (sampleMeeting 0 1) 4 5 6 meetingMachine =
          .ok (some (0, .new 7)) second ∧
        KernelState.SameButDelivery 1 first.kernel second.kernel := by
  have can : meetingMachine.kernel.CanMeet (sampleMeeting 0 1) 0 :=
    .of_resolve (by decide) (by decide +kernel) (by decide +kernel) (by decide +kernel)
      (by decide +kernel)
  obtain ⟨first, second, early, late, _, _, _, _, same, _⟩ :=
    rendezvous_orders_agree sampleHal can 4 5 6 4 5 6
  exact ⟨first, second, early, late, same⟩

/-- When the receiver is the running thread, a `Recv` that blocks stops it, and a `Recv`
that returns does not. -/
theorem rendezvous_running_differs :
    ¬ ∀ (machine : Machine Unit) (meeting : Rendezvous) (eid : EndpointId),
      machine.kernel.CanMeet meeting eid →
      ∀ (recvNs callNs replyNs : Nat) observed observed' first second,
        recvFirst sampleHal meeting recvNs callNs replyNs machine = .ok observed first →
        callFirst sampleHal meeting callNs recvNs replyNs machine = .ok observed' second →
        first.kernel.sched.running = second.kernel.sched.running := by
  intro claimed
  have can : meetingMachine.kernel.CanMeet (sampleMeeting 1 0) 0 :=
    .of_resolve (by decide) (by decide +kernel) (by decide +kernel) (by decide +kernel)
      (by decide +kernel)
  have early : (recvFirst sampleHal (sampleMeeting 1 0) 4 5 6 meetingMachine).value? =
        some (some (1, .new 7)) ∧
      (recvFirst sampleHal (sampleMeeting 1 0) 4 5 6 meetingMachine).state?.any
        (fun machine => machine.kernel.sched.running = none) := by
    decide +kernel
  have late : (callFirst sampleHal (sampleMeeting 1 0) 5 4 6 meetingMachine).value? =
        some (some (1, .new 7)) ∧
      (callFirst sampleHal (sampleMeeting 1 0) 5 4 6 meetingMachine).state?.any
        (fun machine => machine.kernel.sched.running = some 0) := by
    decide +kernel
  obtain ⟨returned, stopped⟩ := early
  obtain ⟨returned', runs⟩ := late
  obtain ⟨first, ran⟩ := Outcome.eq_ok_of_value? returned
  obtain ⟨second, ran'⟩ := Outcome.eq_ok_of_value? returned'
  have same := claimed meetingMachine (sampleMeeting 1 0) 0 can 4 5 6 _ _ first second ran ran'
  rw [ran] at stopped
  rw [ran'] at runs
  have none : first.kernel.sched.running = none := of_decide_eq_true stopped
  have some : second.kernel.sched.running = some 0 := of_decide_eq_true runs
  rw [none, some] at same
  simp at same

end Machine

end Simurgh
