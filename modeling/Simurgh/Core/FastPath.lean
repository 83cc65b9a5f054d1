import Simurgh.Core.Demand
import Simurgh.Ipc.ArrayEndpoint
import Simurgh.Lib.TransitionSystem

/-!
# The fast path agrees with the slow one

The predicate of the fast path looks at the first cell of the queue of receivers, and
`try_send` takes that cell and moves the others.  Both name the same thread, and that
thread is the one that a `Call` hands its message to.
-/

namespace Simurgh

namespace ArrayEndpoint

variable {Q : Nat} {arrays : ArrayEndpoint Q} {endpoint : Endpoint Q}

/-! ## The predicate -/

/-- The receiver in the first cell. -/
def blockedReceiver (arrays : ArrayEndpoint Q) : Option ThreadId :=
  if 0 < arrays.receivers.len then arrays.receivers.cells[0]?.join.map Waiter.thread else none

def fastPathEligible (arrays : ArrayEndpoint Q) (msg : SmallMessage) (blocking : Bool) :
    FastPathDecision :=
  if !blocking then .fallback .unsupportedMode
  else if msgMaxWords < msg.len.val then .fallback .messageTooLarge
  else
    match arrays.blockedReceiver with
    | some receiver => .take receiver
    | none => .fallback .noBlockedReceiver

theorem fastPathEligible_eq_take_iff {msg : SmallMessage} {receiver : ThreadId} :
    arrays.fastPathEligible msg true = .take receiver ↔
      arrays.blockedReceiver = some receiver := by
  have short : ¬ msgMaxWords < msg.len.val :=
    Nat.not_lt_of_le (Nat.le_of_lt_succ msg.len.isLt)
  unfold fastPathEligible
  rw [Bool.not_true, if_neg Bool.false_ne_true, if_neg short]
  cases arrays.blockedReceiver with
  | none => simp
  | some first => simp

/-- The first cell holds the head of the queue. -/
theorem blockedReceiver_eq (represents : arrays.Represents endpoint) :
    arrays.blockedReceiver = endpoint.blockedReceiver := by
  have queued := represents.receivers
  unfold blockedReceiver Endpoint.blockedReceiver
  cases waiting : endpoint.receivers with
  | nil =>
      rw [waiting] at queued
      rw [queued.len]
      rfl
  | cons receiver rest =>
      rw [waiting] at queued
      rw [queued.len, queued.cells]
      rfl

/-! ## Every reachable endpoint -/

/-- The calls that change an endpoint. -/
inductive Change where
  | trySend (sender : ThreadId) (msg : SmallMessage) (blocking : Bool)
  | tryRecv (receiver : ThreadId) (blocking : Bool)
  | takeDelivered

/-- What a call leaves behind, whether it fails or not. -/
def Change.perform (arrays : ArrayEndpoint Q) : Change → Option (ArrayEndpoint Q)
  | trySend sender msg blocking => (ArrayEndpoint.trySend sender msg blocking arrays).state?
  | tryRecv receiver blocking => (ArrayEndpoint.tryRecv receiver blocking arrays).state?
  | takeDelivered => (ArrayEndpoint.takeDelivered arrays).state?

/-- One endpoint from its creation on. -/
def changes : TransitionSystem (ArrayEndpoint Q) Change where
  Initial arrays := arrays = new
  Step before change after := change.perform before = some after

/-- An endpoint that was only changed by its calls. -/
def Reached (arrays : ArrayEndpoint Q) : Prop :=
  changes.Reachable TransitionSystem.anyStep arrays

/-- A call keeps the arrays in shape. -/
theorem represents_perform (represents : arrays.Represents endpoint) {change : Change}
    {later : ArrayEndpoint Q} (ended : change.perform arrays = some later) :
    ∃ final, later.Represents final := by
  cases change with
  | trySend sender msg blocking =>
      exact (trySend_simulates sender msg blocking arrays endpoint represents).state? ended
  | tryRecv receiver blocking =>
      exact (tryRecv_simulates receiver blocking arrays endpoint represents).state? ended
  | takeDelivered => exact (takeDelivered_simulates arrays endpoint represents).state? ended

/-- The arrays of a reachable endpoint hold two queues. -/
theorem Reached.represents (reached : arrays.Reached) :
    ∃ endpoint, arrays.Represents endpoint := by
  apply TransitionSystem.Reachable.invariant reached
  · rintro start rfl
    exact ⟨.new, represents_new⟩
  · rintro before change after _ ⟨endpoint, represents⟩ ended
    exact represents_perform represents ended

/-- `try_send` delivers to the receiver in the first cell only, and leaves it the message. -/
theorem receiver_of_trySend (represents : arrays.Represents endpoint) {sender : ThreadId}
    {msg : SmallMessage} {blocking : Bool} {receiver : ThreadId} {later : ArrayEndpoint Q}
    (ran : trySend sender msg blocking arrays = .ok (.deliveredTo receiver) later) :
    endpoint.blockedReceiver = some receiver ∧
      later.pendingDelivery = some (receiver, msg) := by
  cases waiting : endpoint.receivers with
  | cons first rest =>
      obtain ⟨left, sent, still⟩ := trySend_of_receiver represents waiting sender msg blocking
      rw [sent] at ran
      injection ran with delivered same
      injection delivered with named
      rw [Endpoint.blockedReceiver, waiting, ← same, ← named]
      exact ⟨rfl, still.pendingDelivery⟩
  | nil =>
      -- The endpoint with lists would have to deliver as well.
      have matched := trySend_simulates sender msg blocking arrays endpoint represents
      rw [ran] at matched
      generalize ended : Endpoint.trySend sender msg blocking endpoint = outcome at matched
      cases matched with
      | ok _ _ =>
          cases blocking with
          | false =>
              rw [Endpoint.trySend_of_absent waiting] at ended
              cases ended
          | true =>
              by_cases room : endpoint.senders.length < Q
              · rw [Endpoint.trySend_of_room waiting room] at ended
                cases ended
              · rw [Endpoint.trySend_of_full waiting (Nat.le_of_not_lt room)] at ended
                cases ended

theorem trySend_of_blockedReceiver (represents : arrays.Represents endpoint)
    {receiver : ThreadId} (front : endpoint.blockedReceiver = some receiver)
    (sender : ThreadId) (msg : SmallMessage) (blocking : Bool) :
    ∃ later, trySend sender msg blocking arrays = .ok (.deliveredTo receiver) later := by
  unfold Endpoint.blockedReceiver at front
  cases waiting : endpoint.receivers with
  | nil =>
      rw [waiting] at front
      cases front
  | cons first rest =>
      rw [waiting, List.head?_cons, Option.map_some, Option.some.injEq] at front
      obtain ⟨later, ran, _⟩ := trySend_of_receiver represents waiting sender msg blocking
      rw [front] at ran
      exact ⟨later, ran⟩

end ArrayEndpoint

/-! ## Calls -/

namespace KernelState

/-- Whenever the call of `doSend` with the predicate set returns, it hands over to the
receiver in front, and that thread has got the message from the caller. -/
def HandsToReceiver (state : KernelState) (caller : ThreadId) (endpoint : CapId)
    (msg : SmallMessage) (nowNs : Nat) : Prop :=
  ∀ cap value final, state.resolve caller endpoint .endpoint .write = .ok cap →
    state.fastPath cap.object.id msg true = true →
      doSend caller endpoint msg true nowNs state = .ok value final →
        ∃ ep receiver, state.endpoints.get? cap.object.id = some ep ∧
          ep.blockedReceiver = some receiver ∧ value = .reschedule (some receiver) ∧
          ∀ tcb, final.tcb receiver = some tcb →
            tcb.pendingMsg = some msg ∧ tcb.pendingFrom = some caller

/-- The predicate holds only where a receiver waits. -/
theorem exists_receiver_of_fastPath {state : KernelState} {eid : EndpointId}
    {msg : SmallMessage} (fast : state.fastPath eid msg true = true) :
    ∃ ep receiver rest, state.endpoints.get? eid = some ep ∧
      ep.receivers = receiver :: rest := by
  unfold fastPath at fast
  cases present : state.endpoints.get? eid with
  | none => simp [present] at fast
  | some ep =>
      cases waiting : ep.receivers with
      | nil =>
          have nobody : ep.blockedReceiver = none := by
            rw [Endpoint.blockedReceiver, waiting]
            rfl
          have short : ¬ msgMaxWords < msg.len.val :=
            Nat.not_lt_of_le (Nat.le_of_lt_succ msg.len.isLt)
          simp [present, fastPathEligible, nobody, short] at fast
      | cons receiver rest => exact ⟨ep, receiver, rest, rfl, waiting⟩

/-- What the receiver holds after the hand-over, when the caller has blocked. -/
theorem tcb_block_handOver (state : KernelState) (receiver caller : ThreadId)
    (msg : SmallMessage) (nowNs : Nat) (blocked : ThreadState) {tcb : Tcb}
    (present : ((state.handOver receiver caller msg nowNs).block caller blocked).tcb receiver =
      some tcb) : tcb.pendingMsg = some msg ∧ tcb.pendingFrom = some caller := by
  have handed : ∀ other, (state.handOver receiver caller msg nowNs).tcb receiver = some other →
      other.pendingMsg = some msg ∧ other.pendingFrom = some caller := by
    intro other there
    change (updateTcb receiver _ state).tcb receiver = some other at there
    rw [tcb_updateTcb, if_pos rfl, Option.map_eq_some_iff] at there
    obtain ⟨before, _, rfl⟩ := there
    exact ⟨rfl, rfl⟩
  change (updateTcb caller _ (state.handOver receiver caller msg nowNs)).tcb receiver = _
    at present
  rw [tcb_updateTcb] at present
  by_cases same : receiver = caller
  · rw [if_pos same, Option.map_eq_some_iff] at present
    obtain ⟨before, there, rfl⟩ := present
    exact handed before there
  · rw [if_neg same] at present
    exact handed tcb present

theorem handsToReceiver (state : KernelState) (caller : ThreadId) (endpoint : CapId)
    (msg : SmallMessage) (nowNs : Nat) :
    state.HandsToReceiver caller endpoint msg nowNs := by
  intro cap value final resolved fast ran
  obtain ⟨ep, receiver, rest, present, waiting⟩ := exists_receiver_of_fastPath fast
  have front : ep.blockedReceiver = some receiver.thread := by
    rw [Endpoint.blockedReceiver, waiting]
    rfl
  let taken := state.putEndpoint cap.object.id
    { ep with receivers := rest, pendingDelivery := none }
  unfold doSend at ran
  rw [Exec.get_bind_run, resolved, Exec.ofExcept_ok, Exec.pure_bind_run, onEndpoint,
    Exec.bind_of_ok (onObject_of_ok present
      (Endpoint.trySend_of_receiver waiting caller msg true))] at ran
  change (takeDeliveredAt cap.object.id >>= _) (state.putEndpoint cap.object.id _) = _ at ran
  rw [Exec.bind_of_ok (takeDeliveredAt_run present)] at ran
  change (deliver caller nowNs (some (receiver.thread, msg)) >>= _) taken = _ at ran
  cases entity : taken.sched.entity receiver.thread with
  | none =>
      rw [Exec.bind_of_err (deliver_of_none entity)] at ran
      cases ran
  | some found =>
      have ready : (taken.sched.entity receiver.thread).isSome := by
        rw [entity]
        rfl
      rw [Exec.bind_of_ok (deliver_of_some ready), if_pos rfl] at ran
      let handed := taken.handOver receiver.thread caller msg nowNs
      change (blockCaller caller .blockedOnReply >>= _) handed = _ at ran
      cases calling : handed.sched.entity caller with
      | none =>
          obtain ⟨stuck, failed, _⟩ := blockCaller_of_absent calling .blockedOnReply
          rw [Exec.bind_of_err failed] at ran
          cases ran
      | some scheduled =>
          have admitted : (handed.sched.entity caller).isSome := by
            rw [calling]
            rfl
          rw [Exec.bind_of_ok (blockCaller_run admitted _), Exec.get_bind_run, fast,
            if_pos rfl, Exec.pure_run, Outcome.ok.injEq] at ran
          obtain ⟨rfl, rfl⟩ := ran
          refine ⟨ep, receiver.thread, present, front, rfl, ?_⟩
          intro tcb there
          exact tcb_block_handOver taken receiver.thread caller msg nowNs .blockedOnReply there

end KernelState

namespace ArrayEndpoint

/-- On every reachable endpoint the predicate names a receiver exactly if `try_send`
delivers to it, and a `Call` hands the processor to the thread that has got its message. -/
theorem fastPath_takes_iff_delivers {Q : Nat} {arrays : ArrayEndpoint Q}
    (reached : arrays.Reached) (sender : ThreadId) (msg : SmallMessage) (blocking : Bool)
    (receiver : ThreadId) :
    (arrays.fastPathEligible msg true = .take receiver ↔
      ∃ later, trySend sender msg blocking arrays = .ok (.deliveredTo receiver) later) ∧
    (∀ later, trySend sender msg blocking arrays = .ok (.deliveredTo receiver) later →
      later.pendingDelivery = some (receiver, msg)) ∧
    ∀ (state : KernelState) (endpoint : CapId) (nowNs : Nat),
      state.HandsToReceiver sender endpoint msg nowNs := by
  obtain ⟨endpoint, represents⟩ := reached.represents
  refine ⟨?_, ?_, ?_⟩
  · rw [fastPathEligible_eq_take_iff, blockedReceiver_eq represents]
    constructor
    · intro front
      exact trySend_of_blockedReceiver represents front sender msg blocking
    · rintro ⟨later, ran⟩
      exact (receiver_of_trySend represents ran).1
  · intro later ran
    exact (receiver_of_trySend represents ran).2
  · intro state endpoint nowNs
    exact state.handsToReceiver sender endpoint msg nowNs

/-- An endpoint of two cells at which thread 7 waits. -/
def sampleWaiting : ArrayEndpoint 2 :=
  ((tryRecv 7 true new).state?).getD new

theorem fastPath_takes_iff_delivers_sample :
    sampleWaiting.fastPathEligible (.new 3) true = .take 7 ∧
      ∃ later, trySend 4 (.new 3) true sampleWaiting = .ok (.deliveredTo 7) later ∧
        later.pendingDelivery = some (7, .new 3) := by
  have ended : Change.perform (new : ArrayEndpoint 2) (.tryRecv 7 true) =
      some sampleWaiting := rfl
  have reached : sampleWaiting.Reached :=
    ⟨new, rfl, (TransitionSystem.Reaches.refl new).step trivial ended⟩
  have takes : sampleWaiting.fastPathEligible (.new 3) true = .take 7 := by decide
  obtain ⟨agrees, pending, _⟩ := fastPath_takes_iff_delivers reached 4 (.new 3) true 7
  obtain ⟨later, ran⟩ := agrees.1 takes
  exact ⟨takes, later, ran, pending later ran⟩

end ArrayEndpoint

end Simurgh
