import Simurgh.Ipc.Endpoint
import Simurgh.Lib.ShiftQueue
import Simurgh.Lib.Simulation

/-!
# Endpoints with their arrays

The two queues of an endpoint are arrays that shift.  An endpoint with arrays does what
an endpoint with lists does.
-/

namespace Simurgh

/-- An endpoint with its queues as the source lays them out. -/
structure ArrayEndpoint (Q : Nat) where
  senders : ShiftQueue Waiter Q
  receivers : ShiftQueue Waiter Q
  pendingDelivery : Option (ThreadId × SmallMessage)

namespace ArrayEndpoint

variable {Q : Nat}

def new : ArrayEndpoint Q :=
  { senders := .empty, receivers := .empty, pendingDelivery := none }

def trySend (sender : ThreadId) (msg : SmallMessage) (blocking : Bool) :
    Exec (ArrayEndpoint Q) EndpointError SendOutcome := do
  let endpoint ← Exec.get
  let (front, receivers) := endpoint.receivers.popFront
  Exec.modify fun endpoint => { endpoint with receivers }
  match front with
  | some receiver => do
      Exec.modify fun endpoint =>
        { endpoint with pendingDelivery := some (receiver.thread, msg) }
      return .deliveredTo receiver.thread
  | none => do
      if blocking then
        let senders ← Exec.okOr .queueFull (endpoint.senders.push { thread := sender, msg })
        Exec.modify fun endpoint => { endpoint with senders }
        return .senderQueued
      else
        return .wouldBlock

def tryRecv (receiver : ThreadId) (blocking : Bool) :
    Exec (ArrayEndpoint Q) EndpointError RecvOutcome := do
  let endpoint ← Exec.get
  let (front, senders) := endpoint.senders.popFront
  Exec.modify fun endpoint => { endpoint with senders }
  match front with
  | some sender => return .received sender.thread sender.msg
  | none => do
      if blocking then
        let receivers ← Exec.okOr .queueFull
          (endpoint.receivers.push { thread := receiver, msg := .new 0 })
        Exec.modify fun endpoint => { endpoint with receivers }
        return .receiverQueued
      else
        return .wouldBlock

def takeDelivered :
    Exec (ArrayEndpoint Q) EndpointError (Option (ThreadId × SmallMessage)) := do
  let endpoint ← Exec.get
  Exec.modify fun endpoint => { endpoint with pendingDelivery := none }
  return endpoint.pendingDelivery

/-- The arrays hold what the lists hold. -/
structure Represents (arrays : ArrayEndpoint Q) (endpoint : Endpoint Q) : Prop where
  senders : arrays.senders.Holds endpoint.senders
  receivers : arrays.receivers.Holds endpoint.receivers
  pendingDelivery : arrays.pendingDelivery = endpoint.pendingDelivery

theorem represents_new : Represents (new : ArrayEndpoint Q) .new :=
  ⟨.empty, .empty, rfl⟩

variable {arrays : ArrayEndpoint Q} {endpoint : Endpoint Q}

theorem trySend_of_receiver (represents : arrays.Represents endpoint) {receiver : Waiter}
    {rest : List Waiter} (waiting : endpoint.receivers = receiver :: rest)
    (sender : ThreadId) (msg : SmallMessage) (blocking : Bool) :
    ∃ later : ArrayEndpoint Q,
      trySend sender msg blocking arrays = .ok (.deliveredTo receiver.thread) later ∧
        later.Represents
          { endpoint with
            receivers := rest, pendingDelivery := some (receiver.thread, msg) } := by
  have queued := represents.receivers
  rw [waiting] at queued
  obtain ⟨left, popped, holds⟩ := queued.popFront_cons
  refine ⟨{ arrays with receivers := left, pendingDelivery := some (receiver.thread, msg) },
    ?_, represents.senders, holds, rfl⟩
  unfold trySend
  rw [Exec.get_bind_run, popped]
  rfl

/-- Without a receiver the array of receivers stays as it is. -/
theorem trySend_of_none (represents : arrays.Represents endpoint)
    (nobody : endpoint.receivers = []) (sender : ThreadId) (msg : SmallMessage)
    (blocking : Bool) :
    trySend sender msg blocking arrays =
      (if blocking then do
        let senders ← Exec.okOr .queueFull (arrays.senders.push { thread := sender, msg })
        Exec.modify fun endpoint => { endpoint with senders }
        return .senderQueued
      else return .wouldBlock : Exec (ArrayEndpoint Q) EndpointError SendOutcome) arrays := by
  have queued := represents.receivers
  rw [nobody] at queued
  unfold trySend
  rw [Exec.get_bind_run, queued.popFront_nil]
  rfl

theorem trySend_of_room (represents : arrays.Represents endpoint)
    (nobody : endpoint.receivers = []) (room : endpoint.senders.length < Q)
    (sender : ThreadId) (msg : SmallMessage) :
    ∃ later : ArrayEndpoint Q,
      trySend sender msg true arrays = .ok .senderQueued later ∧
        later.Represents
          { endpoint with senders := endpoint.senders ++ [{ thread := sender, msg }] } := by
  obtain ⟨senders, pushed, holds⟩ := represents.senders.push_of_room room { thread := sender, msg }
  refine ⟨{ arrays with senders }, ?_, holds, represents.receivers, represents.pendingDelivery⟩
  rw [trySend_of_none represents nobody, if_pos rfl, pushed]
  rfl

theorem trySend_of_full (represents : arrays.Represents endpoint)
    (nobody : endpoint.receivers = []) (full : Q ≤ endpoint.senders.length)
    (sender : ThreadId) (msg : SmallMessage) :
    trySend sender msg true arrays = .err .queueFull arrays := by
  rw [trySend_of_none represents nobody, if_pos rfl, represents.senders.push_of_full full]
  rfl

theorem trySend_of_absent (represents : arrays.Represents endpoint)
    (nobody : endpoint.receivers = []) (sender : ThreadId) (msg : SmallMessage) :
    trySend sender msg false arrays = .ok .wouldBlock arrays :=
  trySend_of_none represents nobody sender msg false

theorem tryRecv_of_sender (represents : arrays.Represents endpoint) {sender : Waiter}
    {rest : List Waiter} (waiting : endpoint.senders = sender :: rest) (receiver : ThreadId)
    (blocking : Bool) :
    ∃ later : ArrayEndpoint Q,
      tryRecv receiver blocking arrays = .ok (.received sender.thread sender.msg) later ∧
        later.Represents { endpoint with senders := rest } := by
  have queued := represents.senders
  rw [waiting] at queued
  obtain ⟨left, popped, holds⟩ := queued.popFront_cons
  refine ⟨{ arrays with senders := left }, ?_, holds, represents.receivers,
    represents.pendingDelivery⟩
  unfold tryRecv
  rw [Exec.get_bind_run, popped]
  rfl

theorem tryRecv_of_none (represents : arrays.Represents endpoint)
    (nobody : endpoint.senders = []) (receiver : ThreadId) (blocking : Bool) :
    tryRecv receiver blocking arrays =
      (if blocking then do
        let receivers ← Exec.okOr .queueFull
          (arrays.receivers.push { thread := receiver, msg := .new 0 })
        Exec.modify fun endpoint => { endpoint with receivers }
        return .receiverQueued
      else return .wouldBlock : Exec (ArrayEndpoint Q) EndpointError RecvOutcome) arrays := by
  have queued := represents.senders
  rw [nobody] at queued
  unfold tryRecv
  rw [Exec.get_bind_run, queued.popFront_nil]
  rfl

theorem tryRecv_of_room (represents : arrays.Represents endpoint)
    (nobody : endpoint.senders = []) (room : endpoint.receivers.length < Q)
    (receiver : ThreadId) :
    ∃ later : ArrayEndpoint Q,
      tryRecv receiver true arrays = .ok .receiverQueued later ∧
        later.Represents
          { endpoint with
            receivers := endpoint.receivers ++ [{ thread := receiver, msg := .new 0 }] } := by
  obtain ⟨receivers, pushed, holds⟩ :=
    represents.receivers.push_of_room room { thread := receiver, msg := .new 0 }
  refine ⟨{ arrays with receivers }, ?_, represents.senders, holds, represents.pendingDelivery⟩
  rw [tryRecv_of_none represents nobody, if_pos rfl, pushed]
  rfl

theorem tryRecv_of_full (represents : arrays.Represents endpoint)
    (nobody : endpoint.senders = []) (full : Q ≤ endpoint.receivers.length)
    (receiver : ThreadId) :
    tryRecv receiver true arrays = .err .queueFull arrays := by
  rw [tryRecv_of_none represents nobody, if_pos rfl, represents.receivers.push_of_full full]
  rfl

theorem tryRecv_of_absent (represents : arrays.Represents endpoint)
    (nobody : endpoint.senders = []) (receiver : ThreadId) :
    tryRecv receiver false arrays = .ok .wouldBlock arrays :=
  tryRecv_of_none represents nobody receiver false

/-! ## The arrays do what the lists do -/

theorem trySend_simulates (sender : ThreadId) (msg : SmallMessage) (blocking : Bool) :
    Exec.Simulates Represents (trySend sender msg blocking : Exec (ArrayEndpoint Q) _ _)
      (Endpoint.trySend sender msg blocking) := by
  intro arrays endpoint represents
  cases waiting : endpoint.receivers with
  | cons receiver rest =>
      obtain ⟨later, ran, still⟩ := trySend_of_receiver represents waiting sender msg blocking
      rw [ran, Endpoint.trySend_of_receiver waiting]
      exact .ok _ still
  | nil =>
      cases blocking with
      | false =>
          rw [trySend_of_absent represents waiting, Endpoint.trySend_of_absent waiting]
          exact .ok _ represents
      | true =>
          by_cases room : endpoint.senders.length < Q
          · obtain ⟨later, ran, still⟩ := trySend_of_room represents waiting room sender msg
            rw [ran, Endpoint.trySend_of_room waiting room]
            exact .ok _ still
          · have full := Nat.le_of_not_lt room
            rw [trySend_of_full represents waiting full, Endpoint.trySend_of_full waiting full]
            exact .err _ represents

theorem tryRecv_simulates (receiver : ThreadId) (blocking : Bool) :
    Exec.Simulates Represents (tryRecv receiver blocking : Exec (ArrayEndpoint Q) _ _)
      (Endpoint.tryRecv receiver blocking) := by
  intro arrays endpoint represents
  cases waiting : endpoint.senders with
  | cons sender rest =>
      obtain ⟨later, ran, still⟩ := tryRecv_of_sender represents waiting receiver blocking
      rw [ran, Endpoint.tryRecv_of_sender waiting]
      exact .ok _ still
  | nil =>
      cases blocking with
      | false =>
          rw [tryRecv_of_absent represents waiting, Endpoint.tryRecv_of_absent waiting]
          exact .ok _ represents
      | true =>
          by_cases room : endpoint.receivers.length < Q
          · obtain ⟨later, ran, still⟩ := tryRecv_of_room represents waiting room receiver
            rw [ran, Endpoint.tryRecv_of_room waiting room]
            exact .ok _ still
          · have full := Nat.le_of_not_lt room
            rw [tryRecv_of_full represents waiting full, Endpoint.tryRecv_of_full waiting full]
            exact .err _ represents

theorem takeDelivered_simulates :
    Exec.Simulates Represents (takeDelivered : Exec (ArrayEndpoint Q) _ _)
      Endpoint.takeDelivered := by
  intro arrays endpoint represents
  have taken : takeDelivered arrays =
      .ok endpoint.pendingDelivery { arrays with pendingDelivery := none } := by
    rw [← represents.pendingDelivery]
    rfl
  rw [taken, Endpoint.takeDelivered_run]
  exact .ok _ ⟨represents.senders, represents.receivers, rfl⟩

end ArrayEndpoint

end Simurgh
