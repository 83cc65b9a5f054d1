import Simurgh.Core.Create

/-!
# Every syscall has one of the listed effects

Each program of the syscall layer is run symbolically, one decision at a time.
The results meet in `dispatch_effect`.
-/

namespace Simurgh

/-- The thread that a result says to run next. -/
def SyscallReturn.next : SyscallReturn → Option ThreadId
  | .reschedule next => next
  | _ => none

/-- However the call ends, `effect` holds of the thread it names as the next one
and of the state it leaves behind. -/
def EndsIn {σ : Type} (effect : Option ThreadId → σ → Prop) :
    Outcome σ SyscallError SyscallReturn → Prop
  | .ok result final => effect result.next final
  | .err _ final => effect none final
  | .panic => True

theorem EndsIn.mono {σ : Type} {strong weak : Option ThreadId → σ → Prop}
    {outcome : Outcome σ SyscallError SyscallReturn} (ends : EndsIn strong outcome)
    (weaken : ∀ next final, strong next final → weak next final) :
    EndsIn weak outcome := by
  cases outcome with
  | ok result final => exact weaken _ _ ends
  | err error final => exact weaken _ _ ends
  | panic => trivial

theorem EndsIn.of_state? {σ : Type} {effect : Option ThreadId → σ → Prop}
    {outcome : Outcome σ SyscallError SyscallReturn} {final : σ}
    (ends : EndsIn effect outcome) (ended : outcome.state? = some final) :
    ∃ next, effect next final := by
  cases outcome with
  | ok result later =>
      obtain rfl := Option.some.inj ended
      exact ⟨result.next, ends⟩
  | err error later =>
      obtain rfl := Option.some.inj ended
      exact ⟨none, ends⟩
  | panic => cases ended

namespace KernelState

/-! ## Running on one object -/

section OnObject

variable {α β δ : Type} {n : Nat} {table : KernelState → Slab α n}
variable {store : Slab α n → KernelState → KernelState} {absent : SyscallError}
variable {convert : δ → SyscallError} {id : Nat} {program : Exec α δ β}
variable {state : KernelState} {object later : α}

theorem onObject_of_none (vacant : (table state).get? id = none) :
    onObject table store absent convert id program state = .err absent state := by
  simp [onObject, vacant]

theorem onObject_of_ok (present : (table state).get? id = some object) {value : β}
    (ran : program object = .ok value later) :
    onObject table store absent convert id program state =
      .ok value (store ((table state).put id later) state) := by
  simp [onObject, present, Exec.zoom, ran]

/-- A call that fails without touching its object leaves the kernel state alone. -/
theorem onObject_of_err (present : (table state).get? id = some object) {error : δ}
    (failed : program object = .err error object)
    (stored : store (table state) state = state) :
    onObject table store absent convert id program state =
      .err (convert error) state := by
  simp [onObject, present, Exec.zoom, failed, Slab.put_self present, stored]

theorem onObject_total (total : program.Total) :
    (onObject table store absent convert id program).Total := by
  refine Exec.Total.get.bind fun state => (Exec.Total.okOr _ _).bind fun object => ?_
  exact total.zoom

end OnObject

/-! ## Resolving -/

section Resolve

variable {state : KernelState} {caller : ThreadId} {cap : CapId} {held : Capability}

theorem lookupCap_eq_ok (found : state.lookupCap caller cap = .ok held) :
    ∃ csId, state.callerCapSpace caller = .ok csId ∧
      state.capSpaces.lookup { space := csId, cap } = some held := by
  obtain ⟨csId, space, found⟩ := Exec.exceptBind_eq_ok.1 found
  refine ⟨csId, space, ?_⟩
  cases present : state.capSpace csId with
  | none => simp [present] at found
  | some table =>
      rw [CapTables.lookup_of_get? present]
      cases stored : table.lookup cap with
      | none => simp [present, stored] at found
      | some stored => simpa [present, stored] using found

/-- A capability that was resolved is held with the rights that were asked for. -/
theorem holds_of_resolve {kind : KernelObjectKind} {needed : CapabilityRights}
    (resolved : state.resolve caller cap kind needed = .ok held) :
    ∃ csId, state.Holds caller csId cap kind needed held.object.id := by
  obtain ⟨found, looked, checked⟩ := Exec.exceptBind_eq_ok.1 resolved
  obtain ⟨csId, space, present⟩ := lookupCap_eq_ok looked
  by_cases sameKind : found.object.kind = kind
  · by_cases allowed : found.allows needed = true
    · obtain rfl : found = held := by simpa [sameKind, allowed] using checked
      exact ⟨csId, space, found, present, by rw [← sameKind], allowed⟩
    · simp [sameKind, allowed] at checked
  · simp [sameKind] at checked

theorem Holds.same_space {csId other : CapSpaceId} {kind : KernelObjectKind}
    {needed : CapabilityRights} {id : ObjectId}
    (holds : state.Holds caller csId cap kind needed id)
    (space : state.callerCapSpace caller = .ok other) : csId = other :=
  Except.ok.inj (holds.space.symm.trans space)

end Resolve

/-! ## The first decisions of every syscall -/

section Decisions

variable {caller : ThreadId} {state : KernelState}
variable {effect : Option ThreadId → KernelState → Prop}

/-- A capability that does not resolve ends the call. -/
theorem resolve_ends {cap : CapId} {kind : KernelObjectKind} {needed : CapabilityRights}
    {next : Capability → Exec KernelState SyscallError SyscallReturn}
    (fails : effect none state)
    (runs : ∀ csId held, state.Holds caller csId cap kind needed held.object.id →
      EndsIn effect (next held state)) :
    EndsIn effect
      ((Exec.ofExcept (state.resolve caller cap kind needed) >>= next) state) := by
  cases resolved : state.resolve caller cap kind needed with
  | error error => exact fails
  | ok held =>
      obtain ⟨csId, holds⟩ := holds_of_resolve resolved
      exact runs csId held holds

/-- An object that does not exist ends the call. -/
theorem onObject_ends {α β δ : Type} {n : Nat} {table : KernelState → Slab α n}
    {store : Slab α n → KernelState → KernelState} {absent : SyscallError}
    {convert : δ → SyscallError} {id : Nat} {program : Exec α δ β}
    {next : β → Exec KernelState SyscallError SyscallReturn}
    (fails : effect none state)
    (runs : ∀ object, (table state).get? id = some object →
      EndsIn effect ((onObject table store absent convert id program >>= next) state)) :
    EndsIn effect ((onObject table store absent convert id program >>= next) state) := by
  cases present : (table state).get? id with
  | none =>
      rw [Exec.bind_of_err (onObject_of_none present)]
      exact fails
  | some object => exact runs object present

end Decisions

/-! ## Notifications -/

section Notifications

variable (caller : ThreadId) (nowNs : Nat)

theorem wakeAll_run (threads : List ThreadId) (state : KernelState) :
    wakeAll nowNs threads state =
      .ok () { state with sched := state.sched.setAllReady nowNs threads } := by
  induction threads generalizing state with
  | nil => rfl
  | cons thread rest ih =>
      have woken : wakeBlocked thread nowNs state =
          .ok () { state with sched := state.sched.setReady thread nowNs } := by
        refine Exec.attempt_eq_ok.2 (Exec.zoom_state.2 ?_)
        exact ⟨_, Scheduler.noteReady_state thread nowNs state.sched, rfl⟩
      rw [wakeAll, Exec.bind_of_ok woken, ih]
      rfl

section Reached

variable {caller} {cap : CapId} {needed : CapabilityRights} {state : KernelState}
variable {held : Capability} {notif : KNotification}

/-- A call that reaches no notification fails before it has changed anything. -/
theorem onNotification_refused {β γ : Type} {program : Exec KNotification NotificationError β}
    {next : Capability → β → Exec KernelState SyscallError γ}
    (absent : ∀ held, state.resolve caller cap .notification needed = .ok held →
      state.notifications.get? held.object.id = none) :
    ∃ error, (Exec.ofExcept (state.resolve caller cap .notification needed) >>= fun held =>
      onNotification held.object.id program >>= next held) state = .err error state := by
  cases resolved : state.resolve caller cap .notification needed with
  | error error => exact ⟨error, rfl⟩
  | ok held =>
      exact ⟨.badCap, Exec.bind_of_err (onObject_of_none (absent held resolved)) _⟩

variable (present : state.notifications.get? held.object.id = some notif)

include present

theorem doSignal_of_present (bits : Nat)
    (resolved : state.resolve caller cap .notification .write = .ok held) :
    doSignal caller cap bits nowNs state =
      .ok .done { state.putNotification held.object.id
          { signalWord := notif.signalWord ||| bits, waiters := [] } with
        sched := state.sched.setAllReady nowNs notif.waiters } := by
  rw [doSignal, Exec.get_bind_run, resolved]
  change (onNotification held.object.id (Notification.signal bits) >>= _) state = _
  rw [onNotification,
    Exec.bind_of_ok (onObject_of_ok present (Notification.signal_run bits notif)),
    Exec.bind_of_ok (wakeAll_run ..)]
  rfl

variable (resolved : state.resolve caller cap .notification .read = .ok held)

include resolved

theorem doPoll_of_present :
    doPoll caller cap state =
      .ok (.value notif.signalWord)
        (state.putNotification held.object.id { notif with signalWord := 0 }) := by
  rw [doPoll, Exec.get_bind_run, resolved]
  exact Exec.bind_of_ok (onObject_of_ok present (Notification.poll_run notif)) _

/-- A `Wait` takes what is pending. -/
theorem doWait_of_pending (pending : notif.signalWord ≠ 0) :
    doWait caller cap nowNs state =
      .ok (.value notif.signalWord)
        (state.putNotification held.object.id { notif with signalWord := 0 }) := by
  rw [doWait, Exec.get_bind_run, resolved]
  change (onNotification held.object.id Notification.poll >>= _) state = _
  rw [onNotification,
    Exec.bind_of_ok (onObject_of_ok present (Notification.poll_run notif)), if_pos pending]
  rfl

/-- Polling an empty word stores the notification as it was. -/
theorem doWait_of_empty (empty : notif.signalWord = 0) :
    doWait caller cap nowNs state =
      (do
        onNotification held.object.id (Notification.wait caller)
        Exec.modify fun state => { state with sched := state.sched.account nowNs }
        Exec.attempt (onSched (Scheduler.noteBlocked caller))
        return .blocked : Exec KernelState SyscallError SyscallReturn) state := by
  have polled : ({ notif with signalWord := 0 } : KNotification) = notif := by
    rw [← empty]
  rw [doWait, Exec.get_bind_run, resolved]
  change (onNotification held.object.id Notification.poll >>= _) state = _
  rw [onNotification,
    Exec.bind_of_ok (onObject_of_ok present (Notification.poll_run notif)),
    if_neg (not_not.2 empty), polled, Slab.put_self present]

/-- If nothing is pending, the caller is queued and blocks. -/
theorem doWait_of_room (empty : notif.signalWord = 0)
    (room : notif.waiters.length < notifWaiters) :
    doWait caller cap nowNs state =
      .ok .blocked { state.putNotification held.object.id
          { signalWord := 0, waiters := notif.waiters ++ [caller] } with
        sched := (state.sched.account nowNs).setBlocked caller } := by
  have blocked : ∀ later : KernelState,
      Exec.attempt (onSched (Scheduler.noteBlocked caller)) later =
        (.ok () { later with sched := later.sched.setBlocked caller } :
          Outcome KernelState SyscallError Unit) := by
    intro later
    apply Exec.attempt_eq_ok.2
    apply Exec.zoom_state.2
    exact ⟨_, Scheduler.noteBlocked_state caller later.sched, rfl⟩
  rw [doWait_of_empty nowNs present resolved empty, onNotification,
    Exec.bind_of_ok (onObject_of_ok present (Notification.wait_of_room room caller)),
    Exec.modify_bind_run, Exec.bind_of_ok (blocked _), empty]
  rfl

theorem doWait_of_full (empty : notif.signalWord = 0)
    (full : ¬ notif.waiters.length < notifWaiters) :
    ∃ error, doWait caller cap nowNs state = .err error state := by
  rw [doWait_of_empty nowNs present resolved empty, onNotification, Exec.bind_of_err
    (onObject_of_err present (Notification.wait_of_full full caller) rfl)]
  exact ⟨_, rfl⟩

end Reached

/-- A capability leads to a notification, or it does not. -/
theorem notification_cases (cap : CapId) (needed : CapabilityRights) (state : KernelState) :
    (∀ held, state.resolve caller cap .notification needed = .ok held →
        state.notifications.get? held.object.id = none) ∨
      ∃ held notif, state.resolve caller cap .notification needed = .ok held ∧
        state.notifications.get? held.object.id = some notif := by
  cases resolved : state.resolve caller cap .notification needed with
  | error error => exact Or.inl (fun _ absurdity => nomatch absurdity)
  | ok held =>
      cases present : state.notifications.get? held.object.id with
      | none =>
          left
          rintro _ same
          obtain rfl := Except.ok.inj same
          exact present
      | some notif => exact Or.inr ⟨held, notif, rfl, present⟩

theorem doSignal_cases (cap : CapId) (bits : Nat) (state : KernelState) :
    (∃ error, doSignal caller cap bits nowNs state = .err error state) ∨
      ∃ held notif, state.resolve caller cap .notification .write = .ok held ∧
        state.notifications.get? held.object.id = some notif ∧
        doSignal caller cap bits nowNs state =
          .ok .done { state.putNotification held.object.id
              { signalWord := notif.signalWord ||| bits, waiters := [] } with
            sched := state.sched.setAllReady nowNs notif.waiters } := by
  rcases notification_cases caller cap .write state with
    absent | ⟨held, notif, resolved, present⟩
  · exact Or.inl (onNotification_refused absent)
  · exact Or.inr
      ⟨held, notif, resolved, present, doSignal_of_present nowNs present bits resolved⟩

theorem doPoll_cases (cap : CapId) (state : KernelState) :
    (∃ error, doPoll caller cap state = .err error state) ∨
      ∃ held notif, state.resolve caller cap .notification .read = .ok held ∧
        state.notifications.get? held.object.id = some notif ∧
        doPoll caller cap state =
          .ok (.value notif.signalWord)
            (state.putNotification held.object.id { notif with signalWord := 0 }) := by
  rcases notification_cases caller cap .read state with
    absent | ⟨held, notif, resolved, present⟩
  · exact Or.inl (onNotification_refused absent)
  · exact Or.inr ⟨held, notif, resolved, present, doPoll_of_present present resolved⟩

theorem doWait_cases (cap : CapId) (state : KernelState) :
    (∃ error, doWait caller cap nowNs state = .err error state) ∨
      ∃ held notif, state.resolve caller cap .notification .read = .ok held ∧
        state.notifications.get? held.object.id = some notif ∧
        (notif.signalWord ≠ 0 ∧
            doWait caller cap nowNs state =
              .ok (.value notif.signalWord)
                (state.putNotification held.object.id { notif with signalWord := 0 }) ∨
          (notif.signalWord = 0 ∧ notif.waiters.length < notifWaiters) ∧
            doWait caller cap nowNs state =
              .ok .blocked { state.putNotification held.object.id
                  { signalWord := 0, waiters := notif.waiters ++ [caller] } with
                sched := (state.sched.account nowNs).setBlocked caller }) := by
  rcases notification_cases caller cap .read state with
    absent | ⟨held, notif, resolved, present⟩
  · exact Or.inl (onNotification_refused absent)
  · by_cases empty : notif.signalWord = 0
    · by_cases room : notif.waiters.length < notifWaiters
      · exact Or.inr ⟨held, notif, resolved, present,
          Or.inr ⟨⟨empty, room⟩, doWait_of_room nowNs present resolved empty room⟩⟩
      · exact Or.inl (doWait_of_full nowNs present resolved empty room)
    · exact Or.inr ⟨held, notif, resolved, present,
        Or.inl ⟨empty, doWait_of_pending nowNs present resolved empty⟩⟩

end Notifications

variable {caller : ThreadId} {nowNs : Nat}

theorem doPoll_ends (notification : CapId) (state : KernelState) :
    EndsIn (Effect caller nowNs state (.poll notification))
      (doPoll caller notification state) := by
  rcases doPoll_cases caller notification state with
    ⟨error, failed⟩ | ⟨held, notif, resolved, present, ran⟩
  · rw [failed]
    exact .unchanged _
  · obtain ⟨csId, holds⟩ := holds_of_resolve resolved
    rw [ran]
    exact .taken (Or.inr rfl) holds present

theorem doSignal_ends (notification : CapId) (bits : Nat) (state : KernelState) :
    EndsIn (Effect caller nowNs state (.signal notification bits))
      (doSignal caller notification bits nowNs state) := by
  rcases doSignal_cases caller nowNs notification bits state with
    ⟨error, failed⟩ | ⟨held, notif, resolved, present, ran⟩
  · rw [failed]
    exact .unchanged _
  · obtain ⟨csId, holds⟩ := holds_of_resolve resolved
    rw [ran]
    exact .signalled holds present

theorem doWait_ends (notification : CapId) (state : KernelState) :
    EndsIn (Effect caller nowNs state (.wait notification))
      (doWait caller notification nowNs state) := by
  rcases doWait_cases caller nowNs notification state with
    ⟨error, failed⟩ | ⟨held, notif, resolved, present, ⟨_, ran⟩ | ⟨_, ran⟩⟩
  · rw [failed]
    exact .unchanged _
  · obtain ⟨csId, holds⟩ := holds_of_resolve resolved
    rw [ran]
    exact .taken (Or.inl rfl) holds present
  · obtain ⟨csId, holds⟩ := holds_of_resolve resolved
    rw [ran]
    exact .waiting holds present

/-! ## Endpoints -/

/-- `blockCaller` has one effect, also when it fails. -/
theorem blockCaller_state (blocked : ThreadState) (state : KernelState) :
    (blockCaller caller blocked state).state? = some (state.block caller blocked) := by
  unfold blockCaller
  rw [Exec.modify_bind_run]
  refine Exec.zoom_state.2 ⟨_, Scheduler.noteBlocked_state .., ?_⟩
  rw [sched_updateTcb]
  rfl

/-- A caller that blocks names no successor when blocking fails. -/
theorem blockCaller_ends {effect : Option ThreadId → KernelState → Prop}
    {blocked : ThreadState} {state : KernelState} (next : KernelState → Option ThreadId)
    (fails : effect none (state.block caller blocked))
    (runs : effect (next (state.block caller blocked)) (state.block caller blocked)) :
    EndsIn effect
      ((do
        blockCaller caller blocked
        let state ← Exec.get
        return .reschedule (next state) :
          Exec KernelState SyscallError SyscallReturn) state) := by
  have ended : (blockCaller caller blocked state).state? = some (state.block caller blocked) :=
    blockCaller_state blocked state
  rw [Exec.bind_run]
  cases ran : blockCaller caller blocked state with
  | ok value later =>
      obtain rfl : later = _ := by simpa [ran] using ended
      exact runs
  | err error later =>
      obtain rfl : later = _ := by simpa [ran] using ended
      exact fails
  | panic => trivial

theorem deliver_of_some {receiver : ThreadId} {msg : SmallMessage} {state : KernelState}
    (admitted : (state.sched.entity receiver).isSome) :
    deliver caller nowNs (some (receiver, msg)) state =
      .ok () (state.handOver receiver caller msg nowNs) := by
  rw [deliver, Exec.modify_bind_run]
  refine Exec.zoom_eq_ok.2 ⟨_, Scheduler.noteReady_of_some ?_ nowNs, ?_⟩
  · rw [sched_updateTcb]
    exact admitted
  · rw [sched_updateTcb]
    rfl

theorem deliver_of_none {receiver : ThreadId} {msg : SmallMessage} {state : KernelState}
    (absent : state.sched.entity receiver = none) :
    deliver caller nowNs (some (receiver, msg)) state =
      .err (.sched .noSuchThread) (state.handOver receiver caller msg nowNs) := by
  have kept : state.sched.setReady receiver nowNs = state.sched := by
    simp [Scheduler.setReady, Scheduler.updateEntity, absent]
  rw [deliver, Exec.modify_bind_run, onSched, Exec.zoom, sched_updateTcb,
    Scheduler.noteReady_of_none absent, handOver, kept]

/-- The delivery that `trySend` left pending is taken at once. -/
theorem takeDeliveredAt_run {eid : EndpointId} {ep later : KEndpoint}
    {state : KernelState} (present : state.endpoints.get? eid = some ep) :
    takeDeliveredAt eid (state.putEndpoint eid later) =
      .ok later.pendingDelivery
        (state.putEndpoint eid { later with pendingDelivery := none }) := by
  have stored : (state.putEndpoint eid later).endpoints.get? eid = some later :=
    Slab.get?_put_self (Slab.lt_of_get? present) later
  unfold takeDeliveredAt onEndpoint
  rw [Exec.get_bind_run, stored]
  refine (onObject_of_ok stored (Endpoint.takeDelivered_run later)).trans ?_
  unfold putEndpoint
  rw [Slab.put_put]

theorem doSend_ends (endpoint : CapId) (msg : SmallMessage) (isCall : Bool)
    (state : KernelState) :
    EndsIn
      (Effect caller nowNs state
        (if isCall then .call endpoint msg else .send endpoint msg))
      (doSend caller endpoint msg isCall nowNs state) := by
  have idle : state.reserves caller
      (if isCall then .call endpoint msg else .send endpoint msg) = none := by
    cases isCall with
    | false => rfl
    | true => rfl
  unfold doSend
  rw [Exec.get_bind_run]
  refine resolve_ends (.unchanged _ idle) fun csId cap holds => ?_
  refine onObject_ends (.unchanged _ idle) fun ep present => ?_
  cases waiting : ep.receivers with
  | nil =>
      by_cases room : ep.senders.length < endpointQueue
      · rw [Exec.bind_of_ok (onObject_of_ok present
          (Endpoint.trySend_of_room waiting room caller msg))]
        exact blockCaller_ends (fun later => later.sched.pickNext)
          (.queued rfl holds present waiting rfl (Or.inl rfl))
          (.queued rfl holds present waiting rfl (Or.inr rfl))
      · rw [Exec.bind_of_err (onObject_of_err present
          (Endpoint.trySend_of_full waiting (Nat.le_of_not_lt room) caller msg) rfl)]
        exact .unchanged _ idle
  | cons receiver rest =>
      rw [Exec.bind_of_ok (onObject_of_ok present
        (Endpoint.trySend_of_receiver waiting caller msg true))]
      change EndsIn _ ((takeDeliveredAt cap.object.id >>= _)
        (state.putEndpoint cap.object.id _))
      rw [Exec.bind_of_ok (takeDeliveredAt_run present)]
      let taken := state.putEndpoint cap.object.id
        { ep with receivers := rest, pendingDelivery := none }
      change EndsIn _ ((deliver caller nowNs (some (receiver.thread, msg)) >>= _) taken)
      cases entity : taken.sched.entity receiver.thread with
      | none =>
          rw [Exec.bind_of_err (deliver_of_none entity)]
          cases isCall with
          | false => exact .sent holds present waiting
          | true => exact .callStuck holds present waiting entity
      | some found =>
          have admitted : (taken.sched.entity receiver.thread).isSome := by
            rw [entity]
            rfl
          rw [Exec.bind_of_ok (deliver_of_some admitted)]
          cases isCall with
          | false => exact .sent holds present waiting
          | true =>
              refine blockCaller_ends
                (fun later =>
                  if state.fastPath cap.object.id msg true then some receiver.thread
                  else later.sched.pickNext)
                (.called holds present waiting admitted rfl (Or.inl rfl))
                (.called holds present waiting admitted rfl ?_)
              split
              · exact Or.inr (Or.inl rfl)
              · exact Or.inr (Or.inr rfl)

/-- Waking the sender never fails. -/
theorem release_run (sender : ThreadId) (nowNs : Nat) (state : KernelState) :
    Exec.attempt (onSched (Scheduler.noteReady sender nowNs))
      (state.updateTcb sender fun tcb =>
        if tcb.state ≠ .blockedOnReply then { tcb with state := .runnable } else tcb) =
      (.ok () (state.release sender nowNs) : Outcome KernelState SyscallError Unit) := by
  refine Exec.attempt_eq_ok.2 (Exec.zoom_state.2 ⟨_, Scheduler.noteReady_state .., ?_⟩)
  rw [sched_updateTcb]
  rfl

theorem doRecv_ends (endpoint : CapId) (state : KernelState) :
    EndsIn (Effect caller nowNs state (.recv endpoint))
      (doRecv caller endpoint nowNs state) := by
  unfold doRecv
  rw [Exec.get_bind_run]
  refine resolve_ends (.unchanged _) fun csId cap holds => ?_
  refine onObject_ends (.unchanged _) fun ep present => ?_
  cases waiting : ep.senders with
  | nil =>
      by_cases room : ep.receivers.length < endpointQueue
      · rw [Exec.bind_of_ok (onObject_of_ok present
          (Endpoint.tryRecv_of_room waiting room caller))]
        exact blockCaller_ends (fun later => later.sched.pickNext)
          (.awaiting holds present waiting rfl (Or.inl rfl))
          (.awaiting holds present waiting rfl (Or.inr rfl))
      · rw [Exec.bind_of_err (onObject_of_err present
          (Endpoint.tryRecv_of_full waiting (Nat.le_of_not_lt room) caller) rfl)]
        exact .unchanged _
  | cons sender rest =>
      rw [Exec.bind_of_ok (onObject_of_ok present
        (Endpoint.tryRecv_of_sender waiting caller true))]
      change EndsIn _ ((Exec.modify _ >>= _) (state.putEndpoint cap.object.id _))
      rw [Exec.modify_bind_run, Exec.bind_of_ok (release_run ..)]
      exact .received holds present waiting

theorem noteReady_storeReply_of_none {toThread : ThreadId} {msg : SmallMessage}
    {state : KernelState} (entity : state.sched.entity toThread = none) :
    onSched (Scheduler.noteReady toThread nowNs) (state.storeReply toThread msg) =
      .err (.sched .noSuchThread) (state.storeReply toThread msg) := by
  have sched : (state.storeReply toThread msg).sched = state.sched := sched_updateTcb ..
  rw [onSched, Exec.zoom, sched, Scheduler.noteReady_of_none entity, ← sched]

/-- The thread that awaits the reply is made ready. -/
theorem noteReady_storeReply_of_some {toThread : ThreadId} {msg : SmallMessage}
    {state : KernelState} (admitted : (state.sched.entity toThread).isSome) :
    onSched (Scheduler.noteReady toThread nowNs) (state.storeReply toThread msg) =
      .ok () { state.storeReply toThread msg with
        sched := state.sched.setReady toThread nowNs } := by
  have sched : (state.storeReply toThread msg).sched = state.sched := sched_updateTcb ..
  rw [onSched, Exec.zoom, sched, Scheduler.noteReady_of_some admitted]

theorem doReply_ends (toThread : ThreadId) (msg : SmallMessage) (state : KernelState) :
    EndsIn (Effect caller nowNs state (.reply toThread msg))
      (doReply caller toThread msg nowNs state) := by
  by_cases ne : caller = toThread
  · have same : (caller != toThread) = false := by simp [ne]
    simp only [doReply, same, Exec.guard, Bool.false_eq_true, if_false,
      Exec.throw_bind_run]
    exact .unchanged _
  · have distinct : (caller != toThread) = true := by simp [ne]
    by_cases awaits : state.isBlockedOnReply toThread = true
    · simp only [doReply, distinct, Exec.guard, if_true, Exec.pure_bind_run,
        Exec.get_bind_run, awaits, Exec.modify_bind_run]
      change EndsIn _ ((onSched (Scheduler.noteReady toThread nowNs) >>= _)
        (state.storeReply toThread msg))
      cases entity : state.sched.entity toThread with
      | none =>
          rw [Exec.bind_of_err (noteReady_storeReply_of_none entity)]
          exact .replyStuck ne awaits entity
      | some found =>
          have admitted : (state.sched.entity toThread).isSome := by
            rw [entity]
            rfl
          rw [Exec.bind_of_ok (noteReady_storeReply_of_some admitted), Exec.bind_run]
          have ended := Scheduler.noteReady_state caller nowNs
            (state.sched.setReady toThread nowNs)
          unfold onSched Exec.zoom
          cases ran : Scheduler.noteReady caller nowNs
              (state.sched.setReady toThread nowNs) with
          | ok value later =>
              obtain rfl : later = _ := by simpa [ran] using ended
              exact .replied ne awaits admitted (Or.inr rfl)
          | err error later =>
              obtain rfl : later = _ := by simpa [ran] using ended
              exact .replied ne awaits admitted (Or.inl rfl)
          | panic => trivial
    · simp only [doReply, distinct, Exec.guard, if_true, Exec.pure_bind_run,
        Exec.get_bind_run, awaits, Bool.false_eq_true, if_false, Exec.throw_bind_run]
      exact .unchanged _

/-! ## Capabilities -/

/-- A call on the capability tables, whatever way it ends. -/
theorem onCapSpaces_ends {α : Type} {effect : Option ThreadId → KernelState → Prop}
    {program : Exec (CapTables capSlotsPerSpace maxCapSpaces) CapTableError α}
    {wrap : α → SyscallReturn} {state : KernelState}
    (silent : ∀ value, (wrap value).next = none)
    (ends : ∀ tables, (program state.capSpaces).state? = some tables →
      effect none { state with capSpaces := tables }) :
    EndsIn effect
      ((onCapSpaces program >>= fun value => pure (wrap value)) state) := by
  rw [Exec.bind_run]
  unfold onCapSpaces Exec.zoom
  cases ran : program state.capSpaces with
  | ok value tables =>
      change effect (wrap value).next _
      rw [silent]
      exact ends tables (by rw [ran]; rfl)
  | err error tables => exact ends tables (by rw [ran]; rfl)
  | panic => trivial

theorem doCapRevoke_ends (cap : CapId) (state : KernelState) :
    EndsIn (Effect caller nowNs state (.capRevoke cap)) (doCapRevoke caller cap state) := by
  unfold doCapRevoke
  rw [Exec.get_bind_run]
  cases found : state.capKindOf caller cap with
  | error error => exact .unchanged _
  | ok kind =>
      rw [Exec.ofExcept_ok, Exec.pure_bind_run]
      refine resolve_ends (.unchanged _) fun csId held holds => ?_
      rw [holds.space, Exec.ofExcept_ok, Exec.pure_bind_run]
      exact onCapSpaces_ends (fun _ => rfl) fun tables ran => .revoked holds ran

theorem doCapGrant_ends (targetThread cap : CapId) (rights : CapabilityRights)
    (state : KernelState) :
    EndsIn (Effect caller nowNs state (.capGrant targetThread cap rights))
      (doCapGrant caller targetThread cap rights state) := by
  unfold doCapGrant
  rw [Exec.get_bind_run]
  refine resolve_ends (.unchanged _) fun csId tcap target => ?_
  cases found : state.tcb tcap.object.id with
  | none => exact .unchanged _
  | some dstTcb =>
      rw [Exec.okOr_some, Exec.pure_bind_run]
      cases kindFound : state.capKindOf caller cap with
      | error error => exact .unchanged _
      | ok kind =>
          rw [Exec.ofExcept_ok, Exec.pure_bind_run]
          refine resolve_ends (.unchanged _) fun srcCs held source => ?_
          obtain rfl : srcCs = csId := source.same_space target.space
          rw [target.space, Exec.ofExcept_ok, Exec.pure_bind_run]
          by_cases ne : srcCs = dstTcb.capSpace
          · simp only [capSpacePair, ne, if_true, Exec.okOr_none,
              Exec.throw_bind_run]
            exact .unchanged _
          · cases srcTable : state.capSpace srcCs with
            | none =>
                simp only [capSpacePair, ne, if_false, srcTable]
                exact .unchanged _
            | some src =>
                cases dstTable : state.capSpace dstTcb.capSpace with
                | none =>
                    simp only [capSpacePair, ne, if_false, srcTable, dstTable]
                    exact .unchanged _
                | some dst =>
                    simp only [capSpacePair, ne, if_false, srcTable, dstTable]
                    refine onCapSpaces_ends (fun _ => rfl) fun tables ran => ?_
                    refine .granted target found source ne ?_
                    have present : state.capSpaces.get? srcCs = some src := srcTable
                    simpa [CapTables.run, present] using ran

/-! ## Retype -/

/-- `reserveRange` fails without any change, or it moves one watermark. -/
theorem reserveRange_spec (caller : ThreadId) (untyped : CapId)
    (targetType : KernelObjectType) (count : Nat) (state : KernelState) :
    (state.reserves caller (.retype untyped targetType count) = none ∧
        ∃ error, reserveRange caller untyped targetType count state = .err error state) ∨
      reserveRange caller untyped targetType count state = .panic ∨
        ∃ csId uid region grant later,
          state.Holds caller csId untyped .untypedMemory .write uid ∧
            state.untyped.get? uid = some region ∧
            UntypedMemory.retype targetType count region = .ok grant later ∧
            reserveRange caller untyped targetType count state =
              .ok grant (state.putUntyped uid later) := by
  unfold reserveRange onUntyped reserves untypedAt
  rw [Exec.get_bind_run]
  cases resolved : state.resolve caller untyped .untypedMemory .write with
  | error error => exact Or.inl ⟨by simp [resolved], error, rfl⟩
  | ok cap =>
      obtain ⟨csId, holds⟩ := holds_of_resolve resolved
      rw [Exec.ofExcept_ok, Exec.pure_bind_run]
      cases present : state.untyped.get? cap.object.id with
      | none =>
          exact Or.inl ⟨by simp [resolved, present], .badCap, onObject_of_none present⟩
      | some region =>
          cases ran : UntypedMemory.retype targetType count region with
          | ok grant later =>
              exact Or.inr (Or.inr ⟨csId, _, region, grant, later, holds, present, ran,
                onObject_of_ok present ran⟩)
          | err error later =>
              obtain rfl := UntypedMemory.retype_err ran
              exact Or.inl ⟨by simp [resolved, present, ran], .mm error,
                onObject_of_err present ran rfl⟩
          | panic =>
              refine Or.inr (Or.inl ?_)
              simp [onObject, present, Exec.zoom, ran]

theorem doRetype_ends (untyped : CapId) (targetType : KernelObjectType) (count : Nat)
    (state : KernelState) :
    EndsIn (Effect caller nowNs state (.retype untyped targetType count))
      (doRetype caller untyped targetType count state) := by
  unfold doRetype
  rcases reserveRange_spec caller untyped targetType count state with
    ⟨idle, error, failed⟩ | panicked |
      ⟨csId, uid, region, grant, later, holds, present, reserved, ran⟩
  · rw [Exec.bind_of_err failed]
    exact .unchanged _ idle
  · rw [Exec.bind_run, panicked]
    trivial
  · have space : (state.putUntyped uid later).callerCapSpace caller = .ok csId :=
      holds.space
    have creates : ∀ after,
        (createObjects caller csId targetType grant.physBase 0 grant.count none
          (state.putUntyped uid later)).state? = some after →
        Effect caller nowNs state (.retype untyped targetType count) none after :=
      fun after ended => .retyped holds present reserved
        (createObjects_creates (by omega) ended) (createObjects_newPages ended)
    rw [Exec.bind_of_ok ran, Exec.get_bind_run, space, Exec.ofExcept_ok,
      Exec.pure_bind_run, Exec.bind_run]
    cases loop : createObjects caller csId targetType grant.physBase 0 grant.count none
        (state.putUntyped uid later) with
    | ok first after =>
        have effect := creates after (by rw [loop]; rfl)
        cases first with
        | none => exact effect
        | some cap => exact effect
    | err error after => exact creates after (by rw [loop]; rfl)
    | panic => trivial

end KernelState

end Simurgh
