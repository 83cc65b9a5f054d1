import Simurgh.Ipc.ArrayEndpoint

/-!
# First come, first served

Whoever waits at an endpoint is served in the order of arrival.  The log of a run holds
what the callers have seen, and the queues hold what is not yet handed over.
-/

namespace Simurgh

/-- A call of an endpoint. -/
inductive EndpointCall where
  | send (sender : ThreadId) (msg : SmallMessage) (blocking : Bool)
  | recv (receiver : ThreadId) (blocking : Bool)

/-- What a caller sees.  After `deliveredTo` it has taken the delivery. -/
inductive EndpointReply where
  | sent (outcome : SendOutcome) (delivery : Option (ThreadId × SmallMessage))
  | received (outcome : RecvOutcome)

/-- A message, who has sent it, and who has got it. -/
structure Handover where
  sender : ThreadId
  receiver : ThreadId
  msg : SmallMessage

/-- What the callers of an endpoint have seen. -/
structure EndpointLog where
  /-- The messages that were taken from their senders. -/
  accepted : List (ThreadId × SmallMessage)
  handed : List Handover
  /-- The receivers that were queued. -/
  arrived : List ThreadId
  /-- The receivers that `deliveredTo` has named. -/
  named : List ThreadId
  /-- The receivers that were given a delivery. -/
  served : List ThreadId

namespace EndpointLog

def empty : EndpointLog :=
  { accepted := [], handed := [], arrived := [], named := [], served := [] }

def accepts (sender : ThreadId) (msg : SmallMessage) (log : EndpointLog) : EndpointLog :=
  { log with accepted := log.accepted ++ [(sender, msg)] }

/-- A message that a sender has left is received. -/
def hands (handover : Handover) (log : EndpointLog) : EndpointLog :=
  { log with handed := log.handed ++ [handover] }

/-- A message is delivered to a receiver that waits. -/
def delivers (sender named : ThreadId) (delivery : Option (ThreadId × SmallMessage))
    (log : EndpointLog) : EndpointLog :=
  match delivery with
  | some (receiver, msg) =>
      { log.hands { sender, receiver, msg } with
        named := log.named ++ [named], served := log.served ++ [receiver] }
  | none => { log with named := log.named ++ [named] }

/-- The log after a call that has returned. -/
def record (log : EndpointLog) : EndpointCall → EndpointReply → EndpointLog
  | .send sender msg _, .sent (.deliveredTo named) delivery =>
      (log.accepts sender msg).delivers sender named delivery
  | .send sender msg _, .sent .senderQueued _ => log.accepts sender msg
  | .recv receiver _, .received (.received sender msg) => log.hands { sender, receiver, msg }
  | .recv receiver _, .received .receiverQueued =>
      { log with arrived := log.arrived ++ [receiver] }
  | _, _ => log

end EndpointLog

namespace ArrayEndpoint

variable {Q : Nat}

/-- Whoever is told `deliveredTo` takes the delivery. -/
def afterSend : SendOutcome → Exec (ArrayEndpoint Q) EndpointError EndpointReply
  | .deliveredTo receiver => do
      let delivery ← takeDelivered
      return .sent (.deliveredTo receiver) delivery
  | .senderQueued => return .sent .senderQueued none
  | .wouldBlock => return .sent .wouldBlock none

def perform : EndpointCall → Exec (ArrayEndpoint Q) EndpointError EndpointReply
  | .send sender msg blocking => do
      let outcome ← trySend sender msg blocking
      afterSend outcome
  | .recv receiver blocking => do
      let outcome ← tryRecv receiver blocking
      return .received outcome

/-- A call and its entry in the log. -/
def step (call : EndpointCall) (state : ArrayEndpoint Q × EndpointLog) :
    Option (ArrayEndpoint Q × EndpointLog) :=
  match perform call state.1 with
  | .ok reply later => some (later, state.2.record call reply)
  | .err _ later => some (later, state.2)
  | .panic => none

/-- Calls one after another. -/
def run : List EndpointCall → ArrayEndpoint Q × EndpointLog → Option (ArrayEndpoint Q × EndpointLog)
  | [], state => some state
  | call :: rest, state => (step call state).bind (run rest)

/-- A call that is refused leaves the endpoint as it was. -/
structure Refuses (arrays : ArrayEndpoint Q) : Prop where
  queueFull : ∀ call error later, perform call arrays = .err error later → later = arrays
  wouldBlock : ∀ call reply later, perform call arrays = .ok reply later →
    reply = .sent .wouldBlock none ∨ reply = .received .wouldBlock → later = arrays

/-! ## One call -/

/-- What a call can do. -/
inductive Meets (arrays : ArrayEndpoint Q) (endpoint : Endpoint Q) : EndpointCall →
    Outcome (ArrayEndpoint Q) EndpointError EndpointReply → Prop where
  | delivers {receiver : Waiter} {rest : List Waiter} {later : ArrayEndpoint Q}
      (sender : ThreadId) (msg : SmallMessage) (blocking : Bool)
      (waiting : endpoint.receivers = receiver :: rest)
      (represents : later.Represents
        { endpoint with receivers := rest, pendingDelivery := none }) :
      Meets arrays endpoint (.send sender msg blocking)
        (.ok (.sent (.deliveredTo receiver.thread) (some (receiver.thread, msg))) later)
  | queuesSender {later : ArrayEndpoint Q} (sender : ThreadId) (msg : SmallMessage)
      (nobody : endpoint.receivers = [])
      (represents : later.Represents
        { endpoint with senders := endpoint.senders ++ [{ thread := sender, msg }] }) :
      Meets arrays endpoint (.send sender msg true) (.ok (.sent .senderQueued none) later)
  | receives {sender : Waiter} {rest : List Waiter} {later : ArrayEndpoint Q}
      (receiver : ThreadId) (blocking : Bool) (waiting : endpoint.senders = sender :: rest)
      (represents : later.Represents { endpoint with senders := rest }) :
      Meets arrays endpoint (.recv receiver blocking)
        (.ok (.received (.received sender.thread sender.msg)) later)
  | queuesReceiver {later : ArrayEndpoint Q} (receiver : ThreadId)
      (nobody : endpoint.senders = [])
      (represents : later.Represents
        { endpoint with
          receivers := endpoint.receivers ++ [{ thread := receiver, msg := .new 0 }] }) :
      Meets arrays endpoint (.recv receiver true) (.ok (.received .receiverQueued) later)
  | fills (call : EndpointCall) : Meets arrays endpoint call (.err .queueFull arrays)
  | sendBlocks (sender : ThreadId) (msg : SmallMessage) :
      Meets arrays endpoint (.send sender msg false) (.ok (.sent .wouldBlock none) arrays)
  | recvBlocks (receiver : ThreadId) :
      Meets arrays endpoint (.recv receiver false) (.ok (.received .wouldBlock) arrays)

variable {arrays : ArrayEndpoint Q} {endpoint : Endpoint Q} {log : EndpointLog}

theorem perform_send (represents : arrays.Represents endpoint) (sender : ThreadId)
    (msg : SmallMessage) (blocking : Bool) :
    Meets arrays endpoint (.send sender msg blocking)
      (perform (.send sender msg blocking) arrays) := by
  rw [perform]
  cases waiting : endpoint.receivers with
  | cons receiver rest =>
      obtain ⟨later, ran, still⟩ := trySend_of_receiver represents waiting sender msg blocking
      have pending : later.pendingDelivery = some (receiver.thread, msg) := still.pendingDelivery
      have taken : takeDelivered later =
          .ok (some (receiver.thread, msg)) { later with pendingDelivery := none } := by
        rw [← pending]
        rfl
      rw [Exec.bind_of_ok ran, afterSend, Exec.bind_of_ok taken]
      exact .delivers sender msg blocking waiting ⟨still.senders, still.receivers, rfl⟩
  | nil =>
      cases blocking with
      | false =>
          rw [Exec.bind_of_ok (trySend_of_absent represents waiting sender msg)]
          exact .sendBlocks sender msg
      | true =>
          by_cases room : endpoint.senders.length < Q
          · obtain ⟨later, ran, still⟩ := trySend_of_room represents waiting room sender msg
            rw [Exec.bind_of_ok ran]
            exact .queuesSender sender msg waiting still
          · have full := Nat.le_of_not_lt room
            rw [Exec.bind_of_err (trySend_of_full represents waiting full sender msg)]
            exact .fills _

theorem perform_recv (represents : arrays.Represents endpoint) (receiver : ThreadId)
    (blocking : Bool) :
    Meets arrays endpoint (.recv receiver blocking)
      (perform (.recv receiver blocking) arrays) := by
  rw [perform]
  cases waiting : endpoint.senders with
  | cons sender rest =>
      obtain ⟨later, ran, still⟩ := tryRecv_of_sender represents waiting receiver blocking
      rw [Exec.bind_of_ok ran]
      exact .receives receiver blocking waiting still
  | nil =>
      cases blocking with
      | false =>
          rw [Exec.bind_of_ok (tryRecv_of_absent represents waiting receiver)]
          exact .recvBlocks receiver
      | true =>
          by_cases room : endpoint.receivers.length < Q
          · obtain ⟨later, ran, still⟩ := tryRecv_of_room represents waiting room receiver
            rw [Exec.bind_of_ok ran]
            exact .queuesReceiver receiver waiting still
          · have full := Nat.le_of_not_lt room
            rw [Exec.bind_of_err (tryRecv_of_full represents waiting full receiver)]
            exact .fills _

theorem perform_meets (represents : arrays.Represents endpoint) (call : EndpointCall) :
    Meets arrays endpoint call (perform call arrays) := by
  cases call with
  | send sender msg blocking => exact perform_send represents sender msg blocking
  | recv receiver blocking => exact perform_recv represents receiver blocking

theorem refuses (represents : arrays.Represents endpoint) : Refuses arrays where
  queueFull := by
    intro call error later ran
    have meets := perform_meets represents call
    rw [ran] at meets
    cases meets with
    | fills => rfl
  wouldBlock := by
    intro call reply later ran blocks
    have meets := perform_meets represents call
    rw [ran] at meets
    cases meets with
    | sendBlocks => rfl
    | recvBlocks => rfl
    | _ => simp at blocks

end ArrayEndpoint

namespace Endpoint

variable {Q : Nat}

/-- The queues hold exactly what is not yet handed over. -/
structure Fifo (endpoint : Endpoint Q) (log : EndpointLog) : Prop where
  oneSided : endpoint.senders = [] ∨ endpoint.receivers = []
  messages : log.accepted =
    log.handed.map (fun handover => (handover.sender, handover.msg)) ++
      endpoint.senders.map fun waiter => (waiter.thread, waiter.msg)
  receivers : log.arrived = log.served ++ endpoint.receivers.map Waiter.thread
  named : log.named = log.served
  taken : endpoint.pendingDelivery = none

theorem Fifo.start : Fifo (new : Endpoint Q) .empty where
  oneSided := Or.inl rfl
  messages := rfl
  receivers := rfl
  named := rfl
  taken := rfl

end Endpoint

namespace ArrayEndpoint

variable {Q : Nat} {arrays : ArrayEndpoint Q} {endpoint : Endpoint Q} {log : EndpointLog}

/-- One call keeps the order. -/
theorem step_fifo (represents : arrays.Represents endpoint) (fifo : endpoint.Fifo log)
    (call : EndpointCall) :
    ∃ later final next, step call (arrays, log) = some (later, next) ∧
      later.Represents final ∧ final.Fifo next := by
  have meets := perform_meets represents call
  unfold step
  generalize perform call arrays = ended at meets
  cases meets with
  | delivers sender msg blocking waiting still =>
      refine ⟨_, _, _, rfl, still, ?_⟩
      have nobody := fifo.oneSided.resolve_right (by rw [waiting]; exact List.cons_ne_nil _ _)
      have messages := fifo.messages
      have receivers := fifo.receivers
      rw [nobody] at messages
      rw [waiting] at receivers
      constructor
      · exact Or.inl nobody
      · simp only [EndpointLog.record, EndpointLog.accepts, EndpointLog.delivers,
          EndpointLog.hands, nobody]
        simp [messages]
      · simp only [EndpointLog.record, EndpointLog.accepts, EndpointLog.delivers,
          EndpointLog.hands]
        simp [receivers]
      · simp only [EndpointLog.record, EndpointLog.accepts, EndpointLog.delivers,
          EndpointLog.hands]
        rw [fifo.named]
      · rfl
  | queuesSender sender msg nobody still =>
      refine ⟨_, _, _, rfl, still, Or.inr nobody, ?_, fifo.receivers, fifo.named, fifo.taken⟩
      simp [EndpointLog.record, EndpointLog.accepts, fifo.messages]
  | receives receiver blocking waiting still =>
      refine ⟨_, _, _, rfl, still, ?_, ?_, fifo.receivers, fifo.named, fifo.taken⟩
      · exact Or.inr (fifo.oneSided.resolve_left (by rw [waiting]; exact List.cons_ne_nil _ _))
      · simp [EndpointLog.record, EndpointLog.hands, fifo.messages, waiting]
  | queuesReceiver receiver nobody still =>
      refine ⟨_, _, _, rfl, still, Or.inl nobody, fifo.messages, ?_, fifo.named, fifo.taken⟩
      simp [EndpointLog.record, fifo.receivers]
  | fills => exact ⟨_, _, _, rfl, represents, fifo⟩
  | sendBlocks sender msg => exact ⟨_, _, _, rfl, represents, fifo⟩
  | recvBlocks receiver => exact ⟨_, _, _, rfl, represents, fifo⟩

/-- Any run keeps the order. -/
theorem run_fifo (calls : List EndpointCall) (represents : arrays.Represents endpoint)
    (fifo : endpoint.Fifo log) :
    ∃ later final next, run calls (arrays, log) = some (later, next) ∧
      later.Represents final ∧ final.Fifo next := by
  induction calls generalizing arrays endpoint log with
  | nil => exact ⟨arrays, endpoint, log, rfl, represents, fifo⟩
  | cons call rest ih =>
      obtain ⟨middle, between, next, stepped, still, kept⟩ := step_fifo represents fifo call
      obtain ⟨later, final, last, ran, represented, ends⟩ := ih still kept
      refine ⟨later, final, last, ?_, represented, ends⟩
      rw [run, stepped]
      exact ran

/-- Every sequence of calls on a new endpoint, of any capacity, is first come, first
served. -/
theorem new_run_fifo (Q : Nat) (calls : List EndpointCall) :
    ∃ (arrays : ArrayEndpoint Q) (endpoint : Endpoint Q) (log : EndpointLog),
      run calls (new, .empty) = some (arrays, log) ∧ arrays.Represents endpoint ∧
        endpoint.Fifo log ∧ arrays.Refuses := by
  obtain ⟨arrays, endpoint, log, ran, represents, fifo⟩ :=
    run_fifo calls (represents_new : Represents (new : ArrayEndpoint Q) .new) .start
  exact ⟨arrays, endpoint, log, ran, represents, fifo, refuses represents⟩

end ArrayEndpoint

end Simurgh
