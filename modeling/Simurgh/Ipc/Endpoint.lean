import Simurgh.Ipc.Message
import Simurgh.Lib.Exec

/-!
# Endpoints

A sender and a receiver meet at an endpoint.  Whoever comes first waits in one
of two bounded queues.  The queues are lists with the head at the front.
-/

namespace Simurgh

inductive EndpointError where
  | queueFull
  deriving DecidableEq, Repr

inductive SendOutcome where
  | deliveredTo (receiver : ThreadId)
  | senderQueued
  | wouldBlock
  deriving DecidableEq, Repr

inductive RecvOutcome where
  | received (sender : ThreadId) (msg : SmallMessage)
  | receiverQueued
  | wouldBlock
  deriving DecidableEq, Repr

/-- One blocked party.  A queued receiver carries an empty message. -/
structure Waiter where
  thread : ThreadId
  msg : SmallMessage
  deriving DecidableEq, Repr

/-- An endpoint with room for `Q` threads in either queue. -/
structure Endpoint (Q : Nat) where
  senders : List Waiter
  receivers : List Waiter
  pendingDelivery : Option (ThreadId × SmallMessage)
  deriving DecidableEq, Repr

namespace Endpoint

variable {Q : Nat}

def new : Endpoint Q :=
  { senders := [], receivers := [], pendingDelivery := none }

/-- Nobody is blocked on either side, and no delivery is pending. -/
def isIdle (endpoint : Endpoint Q) : Bool :=
  endpoint.senders.isEmpty && endpoint.receivers.isEmpty && endpoint.pendingDelivery.isNone

theorem eq_new_of_isIdle {endpoint : Endpoint Q} (idle : endpoint.isIdle = true) :
    endpoint = new := by
  obtain ⟨senders, receivers, pendingDelivery⟩ := endpoint
  simp only [isIdle, Bool.and_eq_true, List.isEmpty_iff, Option.isNone_iff_eq_none] at idle
  obtain ⟨⟨rfl, rfl⟩, rfl⟩ := idle
  rfl

/-- The receiver at the head of its queue. -/
def blockedReceiver (endpoint : Endpoint Q) : Option ThreadId :=
  endpoint.receivers.head?.map Waiter.thread

/-- Append to a queue that has room. -/
def push (queue : List Waiter) (waiter : Waiter) : Except EndpointError (List Waiter) :=
  if Q ≤ queue.length then .error .queueFull else .ok (queue ++ [waiter])

/-- `sender` tries to deliver `msg`. -/
def trySend (sender : ThreadId) (msg : SmallMessage) (blocking : Bool) :
    Exec (Endpoint Q) EndpointError SendOutcome := do
  let endpoint ← Exec.get
  match endpoint.receivers with
  | receiver :: rest => do
      Exec.modify fun endpoint =>
        { endpoint with
          receivers := rest
          pendingDelivery := some (receiver.thread, msg) }
      return .deliveredTo receiver.thread
  | [] => do
      if blocking then
        let senders ← Exec.ofExcept
          (push (Q := Q) endpoint.senders { thread := sender, msg })
        Exec.modify fun endpoint => { endpoint with senders }
        return .senderQueued
      else
        return .wouldBlock

/-- `receiver` tries to take a message. -/
def tryRecv (receiver : ThreadId) (blocking : Bool) :
    Exec (Endpoint Q) EndpointError RecvOutcome := do
  let endpoint ← Exec.get
  match endpoint.senders with
  | sender :: rest => do
      Exec.modify fun endpoint => { endpoint with senders := rest }
      return .received sender.thread sender.msg
  | [] => do
      if blocking then
        let receivers ← Exec.ofExcept
          (push (Q := Q) endpoint.receivers { thread := receiver, msg := .new 0 })
        Exec.modify fun endpoint => { endpoint with receivers }
        return .receiverQueued
      else
        return .wouldBlock

/-- Take the delivery that `trySend` left pending. -/
def takeDelivered :
    Exec (Endpoint Q) EndpointError (Option (ThreadId × SmallMessage)) := do
  let endpoint ← Exec.get
  Exec.modify fun endpoint => { endpoint with pendingDelivery := none }
  return endpoint.pendingDelivery

/-! ## What the calls do -/

section Spec

variable {endpoint : Endpoint Q}

theorem trySend_of_receiver {receiver : Waiter} {rest : List Waiter}
    (waiting : endpoint.receivers = receiver :: rest) (sender : ThreadId)
    (msg : SmallMessage) (blocking : Bool) :
    trySend sender msg blocking endpoint =
      .ok (.deliveredTo receiver.thread)
        { endpoint with
          receivers := rest
          pendingDelivery := some (receiver.thread, msg) } := by
  simp [trySend, waiting]

theorem trySend_of_room (noReceiver : endpoint.receivers = [])
    (room : endpoint.senders.length < Q) (sender : ThreadId) (msg : SmallMessage) :
    trySend sender msg true endpoint =
      .ok .senderQueued
        { endpoint with senders := endpoint.senders ++ [{ thread := sender, msg }] } := by
  simp [trySend, noReceiver, push, Nat.not_le_of_lt room]

theorem trySend_of_full (noReceiver : endpoint.receivers = [])
    (full : Q ≤ endpoint.senders.length) (sender : ThreadId) (msg : SmallMessage) :
    trySend sender msg true endpoint = .err .queueFull endpoint := by
  simp [trySend, noReceiver, push, full]

theorem trySend_of_absent (noReceiver : endpoint.receivers = []) (sender : ThreadId)
    (msg : SmallMessage) : trySend sender msg false endpoint = .ok .wouldBlock endpoint := by
  simp [trySend, noReceiver]

theorem tryRecv_of_sender {sender : Waiter} {rest : List Waiter}
    (waiting : endpoint.senders = sender :: rest) (receiver : ThreadId)
    (blocking : Bool) :
    tryRecv receiver blocking endpoint =
      .ok (.received sender.thread sender.msg) { endpoint with senders := rest } := by
  simp [tryRecv, waiting]

theorem tryRecv_of_room (noSender : endpoint.senders = [])
    (room : endpoint.receivers.length < Q) (receiver : ThreadId) :
    tryRecv receiver true endpoint =
      .ok .receiverQueued
        { endpoint with
          receivers := endpoint.receivers ++ [{ thread := receiver, msg := .new 0 }] } := by
  simp [tryRecv, noSender, push, Nat.not_le_of_lt room]

theorem tryRecv_of_full (noSender : endpoint.senders = [])
    (full : Q ≤ endpoint.receivers.length) (receiver : ThreadId) :
    tryRecv receiver true endpoint = .err .queueFull endpoint := by
  simp [tryRecv, noSender, push, full]

theorem tryRecv_of_absent (noSender : endpoint.senders = []) (receiver : ThreadId) :
    tryRecv receiver false endpoint = .ok .wouldBlock endpoint := by
  simp [tryRecv, noSender]

theorem takeDelivered_run (endpoint : Endpoint Q) :
    takeDelivered endpoint =
      .ok endpoint.pendingDelivery { endpoint with pendingDelivery := none } := rfl

end Spec

/-! ## Capacity -/

/-- Both queues are within their arrays. -/
def Fits (endpoint : Endpoint Q) : Prop :=
  endpoint.senders.length ≤ Q ∧ endpoint.receivers.length ≤ Q

theorem fits_new : (new : Endpoint Q).Fits :=
  ⟨Nat.zero_le Q, Nat.zero_le Q⟩

theorem trySend_fits (sender : ThreadId) (msg : SmallMessage) (blocking : Bool) :
    (trySend sender msg blocking : Exec (Endpoint Q) _ _).Preserves Fits := by
  rintro endpoint final ⟨senders, receivers⟩ ended
  cases waiting : endpoint.receivers with
  | cons receiver rest =>
      rw [trySend_of_receiver waiting] at ended
      obtain rfl := Option.some.inj ended
      rw [waiting, List.length_cons] at receivers
      exact ⟨senders, Nat.le_of_succ_le receivers⟩
  | nil =>
      cases blocking with
      | false =>
          simp only [trySend, waiting, Exec.get_bind_run, Bool.false_eq_true, if_false,
            Exec.pure_run, Outcome.state?_ok, Option.some.injEq] at ended
          rw [← ended]
          exact ⟨senders, receivers⟩
      | true =>
          by_cases room : endpoint.senders.length < Q
          · rw [trySend_of_room waiting room] at ended
            obtain rfl := Option.some.inj ended
            exact ⟨by simpa using Nat.succ_le_of_lt room, receivers⟩
          · rw [trySend_of_full waiting (Nat.le_of_not_lt room)] at ended
            obtain rfl := Option.some.inj ended
            exact ⟨senders, receivers⟩

theorem tryRecv_fits (receiver : ThreadId) (blocking : Bool) :
    (tryRecv receiver blocking : Exec (Endpoint Q) _ _).Preserves Fits := by
  rintro endpoint final ⟨senders, receivers⟩ ended
  cases waiting : endpoint.senders with
  | cons sender rest =>
      rw [tryRecv_of_sender waiting] at ended
      obtain rfl := Option.some.inj ended
      rw [waiting, List.length_cons] at senders
      exact ⟨Nat.le_of_succ_le senders, receivers⟩
  | nil =>
      cases blocking with
      | false =>
          simp only [tryRecv, waiting, Exec.get_bind_run, Bool.false_eq_true, if_false,
            Exec.pure_run, Outcome.state?_ok, Option.some.injEq] at ended
          rw [← ended]
          exact ⟨senders, receivers⟩
      | true =>
          by_cases room : endpoint.receivers.length < Q
          · rw [tryRecv_of_room waiting room] at ended
            obtain rfl := Option.some.inj ended
            exact ⟨senders, by simpa using Nat.succ_le_of_lt room⟩
          · rw [tryRecv_of_full waiting (Nat.le_of_not_lt room)] at ended
            obtain rfl := Option.some.inj ended
            exact ⟨senders, receivers⟩

theorem takeDelivered_fits : (takeDelivered : Exec (Endpoint Q) _ _).Preserves Fits := by
  intro endpoint final fits ended
  rw [takeDelivered_run] at ended
  obtain rfl := Option.some.inj ended
  exact fits

/-! ## Returning -/

theorem trySend_total (sender : ThreadId) (msg : SmallMessage) (blocking : Bool) :
    (trySend sender msg blocking : Exec (Endpoint Q) _ _).Total := by
  refine Exec.Total.get.bind fun endpoint => ?_
  cases endpoint.receivers with
  | cons receiver rest => exact (Exec.Total.modify _).bind fun _ => Exec.Total.pure _
  | nil =>
      cases blocking with
      | false => exact Exec.Total.pure _
      | true =>
          refine (Exec.Total.ofExcept _).bind fun senders => ?_
          exact (Exec.Total.modify _).bind fun _ => Exec.Total.pure _

theorem tryRecv_total (receiver : ThreadId) (blocking : Bool) :
    (tryRecv receiver blocking : Exec (Endpoint Q) _ _).Total := by
  refine Exec.Total.get.bind fun endpoint => ?_
  cases endpoint.senders with
  | cons sender rest => exact (Exec.Total.modify _).bind fun _ => Exec.Total.pure _
  | nil =>
      cases blocking with
      | false => exact Exec.Total.pure _
      | true =>
          refine (Exec.Total.ofExcept _).bind fun receivers => ?_
          exact (Exec.Total.modify _).bind fun _ => Exec.Total.pure _

theorem takeDelivered_total : (takeDelivered : Exec (Endpoint Q) _ _).Total :=
  Exec.Total.get.bind fun _ => (Exec.Total.modify _).bind fun _ => Exec.Total.pure _

end Endpoint

/-! ## The fast path -/

inductive FastPathReject where
  | noBlockedReceiver
  | messageTooLarge
  | unsupportedMode
  deriving DecidableEq, Repr

inductive FastPathDecision where
  | take (receiver : ThreadId)
  | fallback (reason : FastPathReject)
  deriving DecidableEq, Repr

/-- Can a `Call` with `msg` hand over to a receiver at once? -/
def fastPathEligible {Q : Nat} (endpoint : Endpoint Q) (msg : SmallMessage)
    (blocking : Bool) : FastPathDecision :=
  if !blocking then .fallback .unsupportedMode
  else if msgMaxWords < msg.len.val then .fallback .messageTooLarge
  else
    match endpoint.blockedReceiver with
    | some receiver => .take receiver
    | none => .fallback .noBlockedReceiver

end Simurgh
