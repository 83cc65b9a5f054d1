import Simurgh.Core.Demand

/-!
# Failed IPC

`Send`, `Call`, `Recv` and `Reply` change the queue of an endpoint and the threads before
they ask the scheduler, and they do not undo this when the scheduler does not know a
thread.
-/

namespace Simurgh

/-- The four syscalls that move messages. -/
def SyscallOp.movesMessages : SyscallOp → Bool
  | send _ _ | recv _ | call _ _ | reply _ _ => true
  | _ => false

/-- The two queues of an endpoint. -/
def Endpoint.queues {Q : Nat} (ep : Endpoint Q) : List Waiter × List Waiter :=
  (ep.senders, ep.receivers)

namespace KernelState

/-- The endpoint queues, the threads and the scheduling entities are the same. -/
structure SameIpc (before after : KernelState) : Prop where
  queues : ∀ eid,
    (after.endpoints.get? eid).map Endpoint.queues =
      (before.endpoints.get? eid).map Endpoint.queues
  tcbs : ∀ tid, after.tcb tid = before.tcb tid
  entities : ∀ tid, after.sched.entity tid = before.sched.entity tid

/-- A caller that gets a place in the queue is known to the scheduler. -/
def CanWait (state : KernelState) (caller : ThreadId) (queue : List Waiter) : Prop :=
  queue.length < endpointQueue → state.admitted caller = true

/-- The scheduler knows the receiver that takes the message, and a caller that waits. -/
def CanSend (state : KernelState) (caller : ThreadId) (isCall : Bool) :
    Option KEndpoint → Prop
  | none => True
  | some ep =>
      match ep.receivers with
      | [] => state.CanWait caller ep.senders
      | receiver :: _ =>
          state.admitted receiver.thread = true ∧
            (isCall = true → state.admitted caller = true)

/-- The scheduler knows a receiver that waits. -/
def CanRecv (state : KernelState) (caller : ThreadId) : Option KEndpoint → Prop
  | none => True
  | some ep =>
      match ep.senders with
      | [] => state.CanWait caller ep.receivers
      | _ :: _ => True

/-- The scheduler knows both ends of a reply. -/
def CanReply (state : KernelState) (caller toThread : ThreadId) : Prop :=
  caller ≠ toThread → state.isBlockedOnReply toThread = true →
    state.admitted toThread = true ∧ state.admitted caller = true

/-- The scheduler knows every thread that the syscall will block or wake. -/
def CanFinish (state : KernelState) (caller : ThreadId) : SyscallOp → Prop
  | .send endpoint _ => state.CanSend caller false (state.endpointAt caller endpoint .write)
  | .call endpoint _ => state.CanSend caller true (state.endpointAt caller endpoint .write)
  | .recv endpoint => state.CanRecv caller (state.endpointAt caller endpoint .read)
  | .reply toThread _ => state.CanReply caller toThread
  | _ => True

/-- If the run fails, then it has changed nothing. -/
def FailsClean {α : Type} (before : KernelState) (outcome : Outcome KernelState SyscallError α) :
    Prop :=
  ∀ error after, outcome = .err error after → before.SameIpc after

section

variable {α : Type} {before after : KernelState} {caller : ThreadId} {nowNs : Nat}
  {eid : EndpointId} {ep : KEndpoint}

theorem SameIpc.refl (state : KernelState) : state.SameIpc state :=
  ⟨fun _ => rfl, fun _ => rfl, fun _ => rfl⟩

theorem failsClean_ok (value : α) (after : KernelState) :
    before.FailsClean (.ok value after) := by
  intro error final ended
  cases ended

theorem failsClean_err_iff {error : SyscallError} :
    before.FailsClean (.err error after : Outcome KernelState SyscallError α) ↔
      before.SameIpc after := by
  constructor
  · intro clean
    exact clean error after rfl
  · intro same other final ended
    obtain ⟨_, rfl⟩ := Outcome.err.inj ended
    exact same

/-- A run that fails at once is clean. -/
theorem failsClean_of_unchanged {error : SyscallError} :
    before.FailsClean (.err error before : Outcome KernelState SyscallError α) :=
  failsClean_err_iff.2 (.refl before)

/-- A queue that got longer or shorter shows. -/
theorem not_sameIpc_of_queues {later : KEndpoint} (present : before.endpoints.get? eid = some ep)
    (stored : after.endpoints = before.endpoints.put eid later)
    (moved : later.queues ≠ ep.queues) : ¬ before.SameIpc after := by
  intro same
  have here := same.queues eid
  rw [stored, Slab.get?_put_self (Slab.lt_of_get? present), present] at here
  exact moved (Option.some.inj here)

/-- `blockCaller` leaves its mark also when it fails. -/
theorem blockCaller_of_none {state : KernelState} (absent : state.sched.entity caller = none)
    (blocked : ThreadState) :
    blockCaller caller blocked state =
      .err (.sched .noSuchThread) (state.block caller blocked) := by
  obtain ⟨final, failed, _⟩ := blockCaller_of_absent absent blocked
  have ended := @blockCaller_state caller blocked state
  rw [failed] at ended
  rw [failed, Option.some.inj ended]

/-- A caller that entered a queue must be known to the scheduler. -/
theorem failsClean_wait_iff {later : KEndpoint} (present : before.endpoints.get? eid = some ep)
    (moved : later.queues ≠ ep.queues) (blocked : ThreadState) :
    before.FailsClean
      ((do
        blockCaller caller blocked
        let state ← Exec.get
        return .reschedule state.sched.pickNext :
          Exec KernelState SyscallError SyscallReturn) (before.putEndpoint eid later)) ↔
      before.admitted caller = true := by
  cases entity : before.sched.entity caller with
  | none =>
      have absent : (before.putEndpoint eid later).sched.entity caller = none := entity
      rw [Exec.bind_of_err (blockCaller_of_none absent blocked), failsClean_err_iff,
        admitted, entity]
      have changed := @not_sameIpc_of_queues before
        ((before.putEndpoint eid later).block caller blocked) eid ep later present
        (endpoints_updateTcb ..) moved
      simp [changed]
  | some found =>
      have there : ((before.putEndpoint eid later).sched.entity caller).isSome := by
        change (before.sched.entity caller).isSome
        rw [entity]
        rfl
      rw [Exec.bind_of_ok (blockCaller_run there blocked), admitted, entity]
      rw [Exec.get_bind_run, Exec.pure_run]
      simp [failsClean_ok]

/-- A receiver that took the message, and a caller that waits for the answer, must be known
to the scheduler. -/
theorem failsClean_deliver_iff {later : KEndpoint}
    (present : before.endpoints.get? eid = some ep) (moved : later.queues ≠ ep.queues)
    (receiver : ThreadId) (msg : SmallMessage) (isCall fast : Bool) :
    before.FailsClean
      ((do
        deliver caller nowNs (some (receiver, msg))
        if isCall then
          blockCaller caller .blockedOnReply
          let state ← Exec.get
          return .reschedule (if fast then some receiver else state.sched.pickNext)
        else
          return .delivered receiver :
          Exec KernelState SyscallError SyscallReturn) (before.putEndpoint eid later)) ↔
      before.admitted receiver = true ∧ (isCall = true → before.admitted caller = true) := by
  let taken := before.putEndpoint eid later
  let handed := taken.handOver receiver caller msg nowNs
  cases ready : before.sched.entity receiver with
  | none =>
      have missing : taken.sched.entity receiver = none := ready
      have changed := @not_sameIpc_of_queues before handed eid ep later present
        (endpoints_updateTcb ..) moved
      rw [Exec.bind_of_err (deliver_of_none missing), failsClean_err_iff, admitted, ready]
      simp only [Option.isSome_none, Bool.false_eq_true, false_and, iff_false]
      exact changed
  | some found =>
      have there : (taken.sched.entity receiver).isSome := by
        change (before.sched.entity receiver).isSome
        rw [ready]
        rfl
      rw [Exec.bind_of_ok (deliver_of_some there), admitted, ready]
      simp only [Option.isSome_some, true_and]
      cases isCall with
      | false =>
          simp [failsClean_ok]
      | true =>
          simp only [if_true, forall_const]
          cases called : before.admitted caller with
          | false =>
              have absent : handed.sched.entity caller = none := by
                change (before.sched.setReady receiver nowNs).entity caller = none
                rw [Scheduler.entity_setReady, admitted_eq_false_iff.1 called]
                simp
              have changed := @not_sameIpc_of_queues before
                (handed.block caller .blockedOnReply) eid ep later present
                ((endpoints_updateTcb ..).trans (endpoints_updateTcb ..)) moved
              rw [Exec.bind_of_err (blockCaller_of_none absent _), failsClean_err_iff]
              simp [changed]
          | true =>
              have known : (handed.sched.entity caller).isSome := by
                change ((before.sched.setReady receiver nowNs).entity caller).isSome
                rw [Scheduler.isSome_entity_setReady]
                exact called
              rw [Exec.bind_of_ok (blockCaller_run known _), Exec.get_bind_run, Exec.pure_run]
              simp [failsClean_ok]

theorem doSend_failsClean_iff (endpoint : CapId) (msg : SmallMessage) (isCall : Bool) :
    before.FailsClean (doSend caller endpoint msg isCall nowNs before) ↔
      before.CanSend caller isCall (before.endpointAt caller endpoint .write) := by
  unfold doSend
  rw [Exec.get_bind_run]
  cases resolved : before.resolve caller endpoint .endpoint .write with
  | error error =>
      simp only [endpointAt, resolved, CanSend, iff_true]
      exact failsClean_of_unchanged
  | ok cap =>
      rw [endpointAt_of_resolve resolved, Exec.ofExcept_ok, Exec.pure_bind_run, onEndpoint]
      cases present : before.endpoints.get? cap.object.id with
      | none =>
          rw [Exec.bind_of_err (onObject_of_none present)]
          simp only [CanSend, iff_true]
          exact failsClean_of_unchanged
      | some ep =>
          simp only [CanSend]
          cases waiting : ep.receivers with
          | nil =>
              by_cases room : ep.senders.length < endpointQueue
              · rw [Exec.bind_of_ok (onObject_of_ok present
                  (Endpoint.trySend_of_room waiting room caller msg))]
                simp only [CanWait, room, forall_const]
                refine failsClean_wait_iff present ?_ _
                simp [Endpoint.queues]
              · rw [Exec.bind_of_err (onObject_of_err present
                  (Endpoint.trySend_of_full waiting (Nat.le_of_not_lt room) caller msg) rfl)]
                simp only [CanWait, room, false_implies, iff_true]
                exact failsClean_of_unchanged
          | cons receiver rest =>
              rw [Exec.bind_of_ok (onObject_of_ok present
                (Endpoint.trySend_of_receiver waiting caller msg true))]
              change before.FailsClean ((takeDeliveredAt cap.object.id >>= _)
                (before.putEndpoint cap.object.id _)) ↔ _
              rw [Exec.bind_of_ok (takeDeliveredAt_run present)]
              refine failsClean_deliver_iff present ?_ receiver.thread msg isCall _
              simp [Endpoint.queues, waiting]

theorem doRecv_failsClean_iff (endpoint : CapId) :
    before.FailsClean (doRecv caller endpoint nowNs before) ↔
      before.CanRecv caller (before.endpointAt caller endpoint .read) := by
  unfold doRecv
  rw [Exec.get_bind_run]
  cases resolved : before.resolve caller endpoint .endpoint .read with
  | error error =>
      simp only [endpointAt, resolved, CanRecv, iff_true]
      exact failsClean_of_unchanged
  | ok cap =>
      rw [endpointAt_of_resolve resolved, Exec.ofExcept_ok, Exec.pure_bind_run, onEndpoint]
      cases present : before.endpoints.get? cap.object.id with
      | none =>
          rw [Exec.bind_of_err (onObject_of_none present)]
          simp only [CanRecv, iff_true]
          exact failsClean_of_unchanged
      | some ep =>
          simp only [CanRecv]
          cases waiting : ep.senders with
          | nil =>
              by_cases room : ep.receivers.length < endpointQueue
              · rw [Exec.bind_of_ok (onObject_of_ok present
                  (Endpoint.tryRecv_of_room waiting room caller))]
                simp only [CanWait, room, forall_const]
                refine failsClean_wait_iff present ?_ _
                simp [Endpoint.queues]
              · rw [Exec.bind_of_err (onObject_of_err present
                  (Endpoint.tryRecv_of_full waiting (Nat.le_of_not_lt room) caller) rfl)]
                simp only [CanWait, room, false_implies, iff_true]
                exact failsClean_of_unchanged
          | cons sender rest =>
              rw [Exec.bind_of_ok (onObject_of_ok present
                (Endpoint.tryRecv_of_sender waiting caller true))]
              change before.FailsClean ((Exec.modify _ >>= _)
                (before.putEndpoint cap.object.id _)) ↔ _
              rw [Exec.modify_bind_run, Exec.bind_of_ok (release_run ..), Exec.pure_run]
              simp [failsClean_ok]

/-- A thread that was blocked before a reply is not blocked after it. -/
theorem not_sameIpc_of_storeReply {toThread : ThreadId} {msg : SmallMessage}
    {sched : KScheduler} (awaits : before.isBlockedOnReply toThread = true) :
    ¬ before.SameIpc { before.storeReply toThread msg with sched } := by
  intro same
  have here := same.tcbs toThread
  unfold isBlockedOnReply at awaits
  cases found : before.tcb toThread with
  | none => simp [found] at awaits
  | some tcb =>
      have blocked : tcb.state = .blockedOnReply := by simpa [found] using awaits
      change (before.storeReply toThread msg).tcb toThread = _ at here
      rw [storeReply, tcb_updateTcb, if_pos rfl, found, Option.map_some,
        Option.some.injEq] at here
      rw [← here] at blocked
      cases blocked

theorem doReply_failsClean_iff (toThread : ThreadId) (msg : SmallMessage) :
    before.FailsClean (doReply caller toThread msg nowNs before) ↔
      before.CanReply caller toThread := by
  unfold doReply CanReply
  by_cases same : caller = toThread
  · simp only [same, bne_self_eq_false, Exec.guard, Bool.false_eq_true, if_false,
      Exec.throw_bind_run, ne_eq, not_true_eq_false, false_implies, iff_true]
    exact failsClean_of_unchanged
  · have distinct : (caller != toThread) = true := by simp [same]
    simp only [distinct, Exec.guard, if_true, Exec.pure_bind_run, Exec.get_bind_run, ne_eq,
      same, not_false_eq_true, forall_const]
    cases awaits : before.isBlockedOnReply toThread with
    | false =>
        simp only [Bool.false_eq_true, if_false, Exec.throw_bind_run, false_implies, iff_true]
        exact failsClean_of_unchanged
    | true =>
        simp only [if_true, Exec.pure_bind_run, Exec.modify_bind_run, forall_const]
        change before.FailsClean ((onSched (Scheduler.noteReady toThread nowNs) >>= _)
          (before.storeReply toThread msg)) ↔ _
        cases target : before.admitted toThread with
        | false =>
            have entity := admitted_eq_false_iff.1 target
            rw [Exec.bind_of_err (noteReady_storeReply_of_none entity), failsClean_err_iff]
            simp [not_sameIpc_of_storeReply awaits]
        | true =>
            rw [Exec.bind_of_ok (noteReady_storeReply_of_some target)]
            cases called : before.admitted caller with
            | false =>
                have absent : (before.sched.setReady toThread nowNs).entity caller = none := by
                  rw [Scheduler.entity_setReady, admitted_eq_false_iff.1 called]
                  simp
                rw [onSched, Exec.bind_run, Exec.zoom, Scheduler.noteReady_of_none absent]
                change before.FailsClean (.err _ _) ↔ _
                rw [failsClean_err_iff]
                simp [not_sameIpc_of_storeReply awaits]
            | true =>
                have there : ((before.sched.setReady toThread nowNs).entity caller).isSome := by
                  rw [Scheduler.isSome_entity_setReady]
                  exact called
                rw [onSched, Exec.bind_run, Exec.zoom, Scheduler.noteReady_of_some there]
                change before.FailsClean (.ok _ _) ↔ _
                simp [failsClean_ok]

end

end KernelState

namespace Machine

variable {μ : Type} {hal : HalInterface μ} {caller : ThreadId} {nowNs : Nat}

/-- What a failed kernel run says about the machine. -/
theorem failsClean_onKernel
    {program : Exec KernelState SyscallError SyscallReturn} {machine : Machine μ} :
    (∀ error after, onKernel program machine = .err error after →
        machine.kernel.SameIpc after.kernel) ↔
      machine.kernel.FailsClean (program machine.kernel) := by
  cases ran : program machine.kernel with
  | ok value kernel =>
      rw [onKernel_of_ok ran]
      simp [KernelState.failsClean_ok]
  | err error kernel =>
      rw [onKernel_of_err ran, KernelState.failsClean_err_iff]
      constructor
      · intro clean
        exact clean error _ rfl
      · intro same other after ended
        obtain ⟨_, rfl⟩ := Outcome.err.inj ended
        exact same
  | panic =>
      rw [onKernel_of_panic ran]
      simp [KernelState.FailsClean]

/-- A failed IPC call has changed nothing, if and only if the scheduler knows every thread
that the call would block or wake. -/
theorem failed_ipc_keeps_iff {op : SyscallOp} (moves : op.movesMessages = true)
    (caller : ThreadId) (nowNs : Nat) (machine : Machine μ) :
    (∀ error after, dispatch hal caller nowNs op machine = .err error after →
        machine.kernel.SameIpc after.kernel) ↔
      machine.kernel.CanFinish caller op := by
  cases op with
  | send endpoint msg =>
      exact failsClean_onKernel.trans (KernelState.doSend_failsClean_iff endpoint msg false)
  | call endpoint msg =>
      exact failsClean_onKernel.trans (KernelState.doSend_failsClean_iff endpoint msg true)
  | recv endpoint =>
      exact failsClean_onKernel.trans (KernelState.doRecv_failsClean_iff endpoint)
  | reply toThread msg =>
      exact failsClean_onKernel.trans (KernelState.doReply_failsClean_iff toThread msg)
  | _ => cases moves

/-- Eight threads fill the queue of the endpoint of the root task. -/
def fillsQueue : List KernelEvent :=
  [ .tick 0,
    .syscall 0 (.retype 0 .endpoint 1) 1,
    .syscall 0 (.retype 0 .threadControlBlock 8) 2 ] ++
  (List.range 8).flatMap fun i =>
    [.startThread (i + 1) 4096 3, .syscall (i + 1) (.send 2 (.new 7)) 4]

theorem failed_ipc_keeps_iff_sample :
    ∃ machine after, runWhile sampleHal (fun _ _ => true) fillsQueue sampleMachine = some machine ∧
      machine.kernel.CanFinish 0 (.send 2 (.new 7)) ∧
      dispatch sampleHal 0 5 (.send 2 (.new 7)) machine = .err (.ipc .queueFull) after ∧
      machine.kernel.SameIpc after.kernel := by
  have ran : (runWhile sampleHal (fun _ _ => true) fillsQueue sampleMachine).any
      (fun machine => (machine.kernel.endpointAt 0 2 .write).any
          (fun ep => ep.receivers = [] ∧ machine.kernel.admitted 0 = true) ∧
        (dispatch sampleHal 0 5 (.send 2 (.new 7)) machine).error? =
          some (.ipc .queueFull)) := by
    decide +kernel
  obtain ⟨machine, reached, final⟩ := (Option.any_eq_true _ _).1 ran
  obtain ⟨free, full⟩ := of_decide_eq_true final
  obtain ⟨ep, found, free⟩ := (Option.any_eq_true _ _).1 free
  obtain ⟨none, known⟩ := of_decide_eq_true free
  obtain ⟨after, failed⟩ := Outcome.eq_err_of_error? full
  have can : machine.kernel.CanFinish 0 (.send 2 (.new 7)) := by
    rw [KernelState.CanFinish, found, KernelState.CanSend, none]
    exact fun _ => known
  exact ⟨machine, after, reached, can, failed,
    (failed_ipc_keeps_iff rfl 0 5 machine).2 can _ after failed⟩

/-! ## A receiver that was terminated -/

/-- The second thread waits at the endpoint and is killed there. -/
def killsReceiver : List KernelEvent :=
  meetingPlace ++
    [ .syscall 0 .yield 100000000,
      .syscall 1 (.recv 2) 100000001,
      .terminate 1 100000002 ]

/-- The message is lost, its receiver leaves the queue and the dead thread is runnable
again, although the running thread gets an error. -/
theorem failed_send_revives_receiver :
    ¬ ∀ (machine : Machine Unit) (caller : ThreadId) (nowNs : Nat) (op : SyscallOp),
      (system sampleHal).Reachable TransitionSystem.anyStep machine →
        op.movesMessages = true →
          ∀ error after, dispatch sampleHal caller nowNs op machine = .err error after →
            machine.kernel.SameIpc after.kernel := by
  intro claimed
  have ran : (runWhile sampleHal (fun _ _ => true) killsReceiver sampleMachine).any
      fun machine =>
        machine.kernel.sched.running = some 0 ∧
        (dispatch sampleHal 0 100000003 (.send 2 (.new 7)) machine).error? =
          some (.sched .noSuchThread) ∧
        (machine.kernel.tcb 1).map Tcb.state = some .exited ∧
        ((dispatch sampleHal 0 100000003 (.send 2 (.new 7)) machine).state?.any
          fun after => (after.kernel.tcb 1).map Tcb.state = some .runnable) := by
    decide +kernel
  obtain ⟨machine, reached, final⟩ := (Option.any_eq_true _ _).1 ran
  obtain ⟨_, rejected, dead, alive⟩ := of_decide_eq_true final
  obtain ⟨after, failed⟩ := Outcome.eq_err_of_error? rejected
  have run := reaches_runWhile sampleHal (.refl sampleMachine) reached
  have same := claimed machine 0 100000003 (.send 2 (.new 7))
    ⟨sampleMachine, sampleMachine_boots, run.mono fun _ _ _ => trivial⟩ rfl _ after failed
  rw [failed] at alive
  have runnable : (after.kernel.tcb 1).map Tcb.state = some .runnable := of_decide_eq_true alive
  rw [same.tcbs 1, dead] at runnable
  cases runnable

end Machine

end Simurgh
