import Simurgh.Core.Rendezvous

/-!
# What a syscall asks of the scheduler

For each syscall the state before it says exactly how the scheduler changes and which
thread is named to run next.  `Demand` lists the seven ways in which this can go.
-/

namespace Simurgh

/-- What one syscall does with the scheduler. -/
inductive Demand where
  | nothing
  | wake (threads : List ThreadId)
  /-- The running thread is charged, and any thread may be next. -/
  | charge
  /-- The running thread is charged and the caller sleeps. -/
  | sleep
  /-- The caller waits in the queue of an endpoint. -/
  | park
  /-- The caller of `Call` waits, and the receiver runs. -/
  | handOver (receiver : ThreadId)
  /-- The thread that gets a reply runs. -/
  | answer (toThread : ThreadId)
  deriving DecidableEq, Repr

namespace Demand

def sched (caller : ThreadId) (nowNs : Nat) (before : KScheduler) : Demand → KScheduler
  | nothing => before
  | wake threads => before.setAllReady nowNs threads
  | charge => before.account nowNs
  | sleep => (before.account nowNs).setBlocked caller
  | park => before.setBlocked caller
  | handOver receiver => (before.setReady receiver nowNs).setBlocked caller
  | answer toThread => (before.setReady toThread nowNs).setReady caller nowNs

def next (caller : ThreadId) (nowNs : Nat) (before : KScheduler) :
    Demand → Option ThreadId
  | charge => (before.account nowNs).pickNext
  | park => (before.setBlocked caller).pickNext
  | handOver receiver => some receiver
  | answer toThread => some toThread
  | _ => none

end Demand

/-- Only these syscalls use the scheduler. -/
def SyscallOp.schedules : SyscallOp → Bool
  | send _ _ | recv _ | call _ _ | reply _ _ | yield | signal _ _ | wait _ => true
  | _ => false

namespace KernelState

/-- The notification that a capability of the caller names. -/
def notificationAt (state : KernelState) (caller : ThreadId) (notification : CapId)
    (needed : CapabilityRights) : Option KNotification :=
  match state.resolve caller notification .notification needed with
  | .ok cap => state.notifications.get? cap.object.id
  | .error _ => none

def admitted (state : KernelState) (tid : ThreadId) : Bool := (state.sched.entity tid).isSome

/-- The caller waits in a queue that has room for it. -/
def demandPark (state : KernelState) (caller : ThreadId) (queue : List Waiter) : Demand :=
  if queue.length < endpointQueue ∧ state.admitted caller then .park else .nothing

/-- `Send` and `Call` at an endpoint. -/
def demandSend (state : KernelState) (caller : ThreadId) (isCall : Bool) :
    Option KEndpoint → Demand
  | none => .nothing
  | some ep =>
      match ep.receivers with
      | [] => state.demandPark caller ep.senders
      | receiver :: _ =>
          if state.admitted receiver.thread = false then .nothing
          else if isCall && state.admitted caller then .handOver receiver.thread
          else .wake [receiver.thread]

/-- What the syscall will ask of the scheduler. -/
def demands (state : KernelState) (caller : ThreadId) : SyscallOp → Demand
  | .yield => .charge
  | .send endpoint _ =>
      state.demandSend caller false (state.endpointAt caller endpoint .write)
  | .call endpoint _ => state.demandSend caller true (state.endpointAt caller endpoint .write)
  | .recv endpoint =>
      match state.endpointAt caller endpoint .read with
      | none => .nothing
      | some ep =>
          match ep.senders with
          | sender :: _ => .wake [sender.thread]
          | [] => state.demandPark caller ep.receivers
  | .reply toThread _ =>
      if caller = toThread ∨ state.isBlockedOnReply toThread = false ∨
          state.admitted toThread = false then .nothing
      else if state.admitted caller then .answer toThread
      else .wake [toThread]
  | .signal notification _ =>
      match state.notificationAt caller notification .write with
      | none => .nothing
      | some notif => .wake notif.waiters
  | .wait notification =>
      match state.notificationAt caller notification .read with
      | none => .nothing
      | some notif =>
          if notif.signalWord = 0 ∧ notif.waiters.length < notifWaiters then .sleep
          else .nothing
  | _ => .nothing

/-! ## The syscalls do what they demand -/

section Spec

variable {caller : ThreadId} {nowNs : Nat} {before after : KernelState}
variable {op : SyscallOp} {next : Option ThreadId}

/-- The scheduler and the next thread are as `demand` says. -/
def Meets (caller : ThreadId) (nowNs : Nat) (before : KernelState) (demand : Demand)
    (next : Option ThreadId) (after : KernelState) : Prop :=
  after.sched = demand.sched caller nowNs before.sched ∧
    next = demand.next caller nowNs before.sched

/-- A syscall that does not use the scheduler. -/
theorem Effect.sched_of_quiet (effect : Effect caller nowNs before op next after)
    (quiet : op.schedules = false) : after.sched = before.sched ∧ next = none := by
  cases effect with
  | unchanged => exact ⟨rfl, rfl⟩
  | revoked holds ran => exact ⟨rfl, rfl⟩
  | granted target found source ne ran => exact ⟨rfl, rfl⟩
  | retyped holds present reserved created newPages =>
      refine ⟨?_, rfl⟩
      rw [created.frame]
      rfl
  | mapped holds frameHeld allowed resolved present added used => exact ⟨rfl, rfl⟩
  | rolledBack holds frameHeld allowed resolved present added removed => exact ⟨rfl, rfl⟩
  | taken isRead holds present => exact ⟨rfl, rfl⟩
  | bound region found target =>
      refine ⟨?_, rfl⟩
      rw [bindIrq_frame]
  | @queued _ _ _ _ _ _ _ isCall _ isSend holds present noReceiver final chosen =>
      rw [isSend] at quiet
      cases isCall with
      | false => cases quiet
      | true => cases quiet
  | _ => cases quiet

theorem notificationAt_of_resolve {notification : CapId} {needed : CapabilityRights}
    {cap : Capability}
    (resolved : before.resolve caller notification .notification needed = .ok cap) :
    before.notificationAt caller notification needed =
      before.notifications.get? cap.object.id := by
  rw [notificationAt, resolved]

theorem notificationAt_of_absent {notification : CapId} {needed : CapabilityRights}
    (absent : ∀ held, before.resolve caller notification .notification needed = .ok held →
      before.notifications.get? held.object.id = none) :
    before.notificationAt caller notification needed = none := by
  rw [notificationAt]
  cases resolved : before.resolve caller notification .notification needed with
  | error error => rfl
  | ok held => exact absent held resolved

theorem endpointAt_of_resolve {endpoint : CapId} {needed : CapabilityRights}
    {cap : Capability}
    (resolved : before.resolve caller endpoint .endpoint needed = .ok cap) :
    before.endpointAt caller endpoint needed = before.endpoints.get? cap.object.id := by
  rw [endpointAt, resolved]

theorem doSignal_meets (notification : CapId) (bits : Nat) (before : KernelState) :
    EndsIn (Meets caller nowNs before (before.demands caller (.signal notification bits)))
      (doSignal caller notification bits nowNs before) := by
  simp only [demands]
  rcases notification_cases caller notification .write before with
    absent | ⟨held, notif, resolved, present⟩
  · have refused : ∃ error, doSignal caller notification bits nowNs before =
        .err error before := onNotification_refused absent
    obtain ⟨error, failed⟩ := refused
    rw [notificationAt_of_absent absent, failed]
    exact ⟨rfl, rfl⟩
  · rw [notificationAt_of_resolve resolved, present,
      doSignal_of_present nowNs present bits resolved]
    exact ⟨rfl, rfl⟩

theorem doWait_meets (notification : CapId) (before : KernelState) :
    EndsIn (Meets caller nowNs before (before.demands caller (.wait notification)))
      (doWait caller notification nowNs before) := by
  simp only [demands]
  rcases notification_cases caller notification .read before with
    absent | ⟨held, notif, resolved, present⟩
  · have refused : ∃ error, doWait caller notification nowNs before =
        .err error before := onNotification_refused absent
    obtain ⟨error, failed⟩ := refused
    rw [notificationAt_of_absent absent, failed]
    exact ⟨rfl, rfl⟩
  · rw [notificationAt_of_resolve resolved, present]
    by_cases empty : notif.signalWord = 0
    · by_cases room : notif.waiters.length < notifWaiters
      · rw [doWait_of_room nowNs present resolved empty room]
        simp only [empty, room, and_self, if_true]
        exact ⟨rfl, rfl⟩
      · obtain ⟨error, failed⟩ := doWait_of_full nowNs present resolved empty room
        rw [failed]
        simp only [room, and_false, if_false]
        exact ⟨rfl, rfl⟩
    · rw [doWait_of_pending nowNs present resolved empty]
      simp only [empty, false_and, if_false]
      exact ⟨rfl, rfl⟩

theorem admitted_eq_false_iff {state : KernelState} {tid : ThreadId} :
    state.admitted tid = false ↔ state.sched.entity tid = none := by
  unfold KernelState.admitted
  exact Option.isSome_eq_false_iff.trans Option.isNone_iff_eq_none

theorem blockCaller_of_absent (absent : before.sched.entity caller = none)
    (blocked : ThreadState) :
    ∃ final, blockCaller caller blocked before = .err (.sched .noSuchThread) final ∧
      final.sched = before.sched := by
  let marked := before.updateTcb caller fun tcb => { tcb with state := blocked }
  have failed : (Scheduler.noteBlocked caller) marked.sched =
      .err .noSuchThread marked.sched := by
    rw [sched_updateTcb]
    simp [Scheduler.noteBlocked, absent]
  refine ⟨{ marked with sched := marked.sched }, ?_, sched_updateTcb ..⟩
  unfold blockCaller
  rw [Exec.modify_bind_run, onSched, Exec.zoom, failed]

theorem fastPath_of_receiver {eid : EndpointId} {ep : KEndpoint} {receiver : Waiter}
    {rest : List Waiter} (present : before.endpoints.get? eid = some ep)
    (waiting : ep.receivers = receiver :: rest) (msg : SmallMessage) :
    before.fastPath eid msg true = true := by
  have short : ¬ msgMaxWords < msg.len.val :=
    Nat.not_lt_of_le (Nat.le_of_lt_succ msg.len.isLt)
  simp [fastPath, present, fastPathEligible, short, Endpoint.blockedReceiver, waiting]

/-- The end of a call that blocks. -/
theorem blockCaller_meets (put : KernelState) (same : put.sched = before.sched)
    (blocked : ThreadState) :
    EndsIn (Meets caller nowNs before (if before.admitted caller then .park else .nothing))
      ((do
        blockCaller caller blocked
        let state ← Exec.get
        return .reschedule state.sched.pickNext :
          Exec KernelState SyscallError SyscallReturn) put) := by
  cases entity : before.sched.entity caller with
  | none =>
      obtain ⟨final, failed, kept⟩ :=
        @blockCaller_of_absent caller _ (same ▸ entity) blocked
      rw [Exec.bind_of_err failed]
      simp only [KernelState.admitted, entity]
      exact ⟨kept.trans same, rfl⟩
  | some found =>
      have there : (put.sched.entity caller).isSome := by
        rw [same, entity]
        rfl
      rw [Exec.bind_of_ok (blockCaller_run there blocked)]
      simp only [KernelState.admitted, entity]
      refine ⟨?_, ?_⟩
      · exact congrArg (Scheduler.setBlocked caller) same
      · exact congrArg (fun sched => (Scheduler.setBlocked caller sched).pickNext) same

/-- The end of a send that found its receiver. -/
theorem deliver_meets (receiver : ThreadId) (msg : SmallMessage) (isCall : Bool)
    (taken : KernelState) (same : taken.sched = before.sched) {fast : Bool}
    (isFast : isCall = true → fast = true) :
    EndsIn
      (Meets caller nowNs before
        (if before.admitted receiver = false then .nothing
          else if isCall && before.admitted caller then .handOver receiver
          else .wake [receiver]))
      ((do
        deliver caller nowNs (some (receiver, msg))
        if isCall then
          blockCaller caller .blockedOnReply
          let state ← Exec.get
          return .reschedule (if fast then some receiver else state.sched.pickNext)
        else
          return .delivered receiver : Exec KernelState SyscallError SyscallReturn) taken) := by
  let handed := taken.handOver receiver caller msg nowNs
  have readied : handed.sched = before.sched.setReady receiver nowNs :=
    congrArg (Scheduler.setReady receiver nowNs) same
  cases ready : before.admitted receiver with
  | false =>
      have entity := admitted_eq_false_iff.1 ready
      have unready : before.sched.setReady receiver nowNs = before.sched := by
        simp [Scheduler.setReady, Scheduler.updateEntity, entity]
      have missing : taken.sched.entity receiver = none := by rw [same, entity]
      rw [Exec.bind_of_err (deliver_of_none missing), if_pos rfl]
      exact ⟨readied.trans unready, rfl⟩
  | true =>
      have readyThere : (taken.sched.entity receiver).isSome := by
        rw [same]
        exact ready
      rw [Exec.bind_of_ok (deliver_of_some readyThere), if_neg (by simp)]
      cases isCall with
      | false => exact ⟨readied, rfl⟩
      | true =>
          rw [if_pos rfl, Bool.true_and]
          cases called : before.admitted caller with
          | false =>
              have absent : handed.sched.entity caller = none := by
                rw [readied, Scheduler.entity_setReady, admitted_eq_false_iff.1 called]
                simp
              obtain ⟨final, failed, kept⟩ := blockCaller_of_absent absent .blockedOnReply
              rw [Exec.bind_of_err failed, if_neg (by simp)]
              exact ⟨kept.trans readied, rfl⟩
          | true =>
              have there : (handed.sched.entity caller).isSome := by
                rw [readied, Scheduler.isSome_entity_setReady]
                exact called
              rw [Exec.bind_of_ok (blockCaller_run there _), Exec.get_bind_run,
                if_pos (isFast rfl), if_pos rfl]
              exact ⟨congrArg (Scheduler.setBlocked caller) readied, rfl⟩

theorem demandPark_of_room {queue : List Waiter} (room : queue.length < endpointQueue) :
    before.demandPark caller queue =
      if before.admitted caller then .park else .nothing := by
  simp [demandPark, room]

theorem demandPark_of_full {queue : List Waiter} (full : ¬ queue.length < endpointQueue) :
    before.demandPark caller queue = .nothing := by
  simp [demandPark, full]

theorem doSend_meets (endpoint : CapId) (msg : SmallMessage) (isCall : Bool)
    (before : KernelState) :
    EndsIn
      (Meets caller nowNs before
        (before.demandSend caller isCall (before.endpointAt caller endpoint .write)))
      (doSend caller endpoint msg isCall nowNs before) := by
  unfold doSend
  rw [Exec.get_bind_run]
  cases resolved : before.resolve caller endpoint .endpoint .write with
  | error error =>
      simp only [endpointAt, resolved]
      exact ⟨rfl, rfl⟩
  | ok cap =>
      rw [endpointAt_of_resolve resolved, Exec.ofExcept_ok, Exec.pure_bind_run, onEndpoint]
      cases present : before.endpoints.get? cap.object.id with
      | none =>
          rw [Exec.bind_of_err (onObject_of_none present)]
          exact ⟨rfl, rfl⟩
      | some ep =>
          simp only [demandSend]
          cases waiting : ep.receivers with
          | nil =>
              by_cases room : ep.senders.length < endpointQueue
              · rw [Exec.bind_of_ok (onObject_of_ok present
                  (Endpoint.trySend_of_room waiting room caller msg)),
                  demandPark_of_room room]
                exact blockCaller_meets (before.putEndpoint cap.object.id
                  { ep with senders := ep.senders ++ [{ thread := caller, msg }] }) rfl _
              · rw [Exec.bind_of_err (onObject_of_err present
                  (Endpoint.trySend_of_full waiting (Nat.le_of_not_lt room) caller msg) rfl),
                  demandPark_of_full room]
                exact ⟨rfl, rfl⟩
          | cons receiver rest =>
              rw [Exec.bind_of_ok (onObject_of_ok present
                (Endpoint.trySend_of_receiver waiting caller msg true))]
              change EndsIn _ ((takeDeliveredAt cap.object.id >>= _)
                (before.putEndpoint cap.object.id _))
              rw [Exec.bind_of_ok (takeDeliveredAt_run present)]
              exact deliver_meets receiver.thread msg isCall
                (before.putEndpoint cap.object.id
                  { ep with receivers := rest, pendingDelivery := none }) rfl
                fun isCall => isCall ▸ fastPath_of_receiver present waiting msg

theorem doRecv_meets (endpoint : CapId) (before : KernelState) :
    EndsIn (Meets caller nowNs before (before.demands caller (.recv endpoint)))
      (doRecv caller endpoint nowNs before) := by
  simp only [demands]
  unfold doRecv
  rw [Exec.get_bind_run]
  cases resolved : before.resolve caller endpoint .endpoint .read with
  | error error =>
      simp only [endpointAt, resolved]
      exact ⟨rfl, rfl⟩
  | ok cap =>
      rw [endpointAt_of_resolve resolved, Exec.ofExcept_ok, Exec.pure_bind_run, onEndpoint]
      cases present : before.endpoints.get? cap.object.id with
      | none =>
          rw [Exec.bind_of_err (onObject_of_none present)]
          exact ⟨rfl, rfl⟩
      | some ep =>
          cases waiting : ep.senders with
          | nil =>
              simp only [waiting]
              by_cases room : ep.receivers.length < endpointQueue
              · rw [Exec.bind_of_ok (onObject_of_ok present
                  (Endpoint.tryRecv_of_room waiting room caller)), demandPark_of_room room]
                exact blockCaller_meets (before.putEndpoint cap.object.id
                  { ep with
                    receivers := ep.receivers ++ [{ thread := caller, msg := .new 0 }] }) rfl _
              · rw [Exec.bind_of_err (onObject_of_err present
                  (Endpoint.tryRecv_of_full waiting (Nat.le_of_not_lt room) caller) rfl),
                  demandPark_of_full room]
                exact ⟨rfl, rfl⟩
          | cons sender rest =>
              simp only [waiting]
              rw [Exec.bind_of_ok (onObject_of_ok present
                (Endpoint.tryRecv_of_sender waiting caller true))]
              change EndsIn _ ((Exec.modify _ >>= _) (before.putEndpoint cap.object.id _))
              rw [Exec.modify_bind_run, Exec.bind_of_ok (release_run ..)]
              exact ⟨rfl, rfl⟩

theorem doReply_meets (toThread : ThreadId) (msg : SmallMessage) (before : KernelState) :
    EndsIn (Meets caller nowNs before (before.demands caller (.reply toThread msg)))
      (doReply caller toThread msg nowNs before) := by
  simp only [demands]
  unfold doReply
  by_cases same : caller = toThread
  · simp [same, Exec.guard, EndsIn, Meets, Demand.sched, Demand.next]
  · have distinct : (caller != toThread) = true := by simp [same]
    simp only [distinct, Exec.guard, if_true, Exec.pure_bind_run, Exec.get_bind_run, same,
      false_or]
    cases awaits : before.isBlockedOnReply toThread with
    | false =>
        simp only [true_or, if_true]
        exact ⟨rfl, rfl⟩
    | true =>
        have sched : (before.storeReply toThread msg).sched = before.sched := sched_updateTcb ..
        simp only [if_true, Exec.pure_bind_run, Exec.modify_bind_run]
        change EndsIn _ ((onSched (Scheduler.noteReady toThread nowNs) >>= _)
          (before.storeReply toThread msg))
        cases target : before.admitted toThread with
        | false =>
            have entity := admitted_eq_false_iff.1 target
            rw [Exec.bind_of_err (noteReady_storeReply_of_none entity), if_pos (Or.inr rfl)]
            exact ⟨sched, rfl⟩
        | true =>
            rw [Exec.bind_of_ok (noteReady_storeReply_of_some target), if_neg (by simp)]
            cases called : before.admitted caller with
            | false =>
                have absent : (before.sched.setReady toThread nowNs).entity caller = none := by
                  rw [Scheduler.entity_setReady, admitted_eq_false_iff.1 called]
                  simp
                rw [onSched, Exec.bind_run, Exec.zoom, Scheduler.noteReady_of_none absent]
                exact ⟨rfl, rfl⟩
            | true =>
                have there : ((before.sched.setReady toThread nowNs).entity caller).isSome := by
                  rw [Scheduler.isSome_entity_setReady]
                  exact called
                rw [onSched, Exec.bind_run, Exec.zoom, Scheduler.noteReady_of_some there]
                exact ⟨rfl, rfl⟩

end Spec

end KernelState

namespace Machine

variable {μ : Type} (hal : HalInterface μ) {caller : ThreadId} {nowNs : Nat}

/-- Every syscall does what it demands, however it ends. -/
theorem dispatch_meets (op : SyscallOp) (machine : Machine μ) :
    EndsIn
      (fun next (final : Machine μ) =>
        KernelState.Meets caller nowNs machine.kernel (machine.kernel.demands caller op)
          next final.kernel)
      (dispatch hal caller nowNs op machine) := by
  have quiet : op.schedules = false → machine.kernel.demands caller op = .nothing →
      EndsIn
        (fun next (final : Machine μ) =>
          KernelState.Meets caller nowNs machine.kernel (machine.kernel.demands caller op)
            next final.kernel)
        (dispatch hal caller nowNs op machine) := by
    intro isQuiet idle
    refine (dispatch_ends hal op machine).mono fun next final effect => ?_
    rw [idle]
    exact effect.sched_of_quiet isQuiet
  cases op with
  | yield => exact ⟨rfl, rfl⟩
  | send endpoint msg =>
      exact onKernel_ends (KernelState.doSend_meets endpoint msg false machine.kernel)
  | call endpoint msg =>
      exact onKernel_ends (KernelState.doSend_meets endpoint msg true machine.kernel)
  | recv endpoint => exact onKernel_ends (KernelState.doRecv_meets endpoint machine.kernel)
  | reply toThread msg =>
      exact onKernel_ends (KernelState.doReply_meets toThread msg machine.kernel)
  | signal notification bits =>
      exact onKernel_ends (KernelState.doSignal_meets notification bits machine.kernel)
  | wait notification =>
      exact onKernel_ends (KernelState.doWait_meets notification machine.kernel)
  | _ => exact quiet rfl rfl

end Machine

end Simurgh
