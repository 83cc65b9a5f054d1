import Simurgh.Core.Resting
import Simurgh.Core.Signals

/-!
# The waiters of notifications

A thread that waits for a notification is in its list and sleeps.  An operation leaves this
alone as long as the threads that it wakes, runs or removes are in no list.
-/

namespace Simurgh

/-! ## Threads that sleep in a list -/

/-- Threads that wait have an entity and are not schedulable. -/
structure Sleeping (waits : ThreadId → Prop) (sched : KScheduler) : Prop where
  asleep : Asleep waits sched
  present : ∀ tid, waits tid → (sched.runState tid).isSome

namespace Sleeping

variable {waits later : ThreadId → Prop} {sched : KScheduler} {tid : ThreadId} {nowNs : Nat}

theorem blocked (sleeping : Sleeping waits sched) (waiting : waits tid) :
    sched.runState tid = some .blocked := by
  have notSchedulable := sleeping.asleep.waiting tid waiting
  obtain ⟨run, present⟩ := Option.isSome_iff_exists.1 (sleeping.present tid waiting)
  rw [present]
  cases run with
  | ready => exact absurd (Or.inl present) notSchedulable
  | running => exact absurd (Or.inr present) notSchedulable
  | blocked => rfl

/-- The running thread has an entity and does not wait. -/
theorem running (sleeping : Sleeping waits sched) (runs : sched.running = some tid) :
    ¬ waits tid ∧ (sched.runState tid).isSome := by
  have schedulable := sleeping.asleep.running tid runs
  constructor
  · exact sleeping.asleep.awake schedulable
  · rcases schedulable with ready | running
    · rw [ready]
      rfl
    · rw [running]
      rfl

theorem of_waits (sleeping : Sleeping waits sched) (same : ∀ tid, later tid → waits tid) :
    Sleeping later sched where
  asleep := sleeping.asleep.of_waits same
  present tid waiting := sleeping.present tid (same tid waiting)

theorem setReady (sleeping : Sleeping waits sched) (awake : ¬ waits tid) (nowNs : Nat) :
    Sleeping waits (sched.setReady tid nowNs) where
  asleep := sleeping.asleep.setReady tid nowNs fun _ waiting =>
    ⟨waiting, fun same => awake (same ▸ waiting)⟩
  present other waiting := by
    rw [Scheduler.isSome_runState_setReady]
    exact sleeping.present other waiting

theorem setAllReady {threads : List ThreadId} (sleeping : Sleeping waits sched)
    (awake : ∀ tid ∈ threads, ¬ waits tid) (nowNs : Nat) :
    Sleeping waits (sched.setAllReady nowNs threads) := by
  induction threads generalizing sched with
  | nil => exact sleeping
  | cons tid rest ih =>
      have first := sleeping.setReady (awake tid List.mem_cons_self) nowNs
      exact ih first fun other member =>
        awake other (List.mem_cons_of_mem _ member)

theorem setBlocked (sleeping : Sleeping waits sched) (tid : ThreadId) :
    Sleeping waits (sched.setBlocked tid) where
  asleep := sleeping.asleep.setBlocked tid fun _ _ waiting => waiting
  present other waiting := by
    rw [Scheduler.isSome_runState_setBlocked]
    exact sleeping.present other waiting

/-- A thread that has an entity goes to sleep. -/
theorem sleep (sleeping : Sleeping waits sched) (present : (sched.runState tid).isSome)
    (others : ∀ other, later other → other = tid ∨ waits other) :
    Sleeping later (sched.setBlocked tid) where
  asleep := sleeping.asleep.setBlocked tid fun other ne waiting =>
    (others other waiting).resolve_left ne
  present other waiting := by
    rw [Scheduler.isSome_runState_setBlocked]
    rcases others other waiting with rfl | before
    · exact present
    · exact sleeping.present other before

theorem account (sleeping : Sleeping waits sched) (nowNs : Nat) :
    Sleeping waits (sched.account nowNs) where
  asleep := sleeping.asleep.account nowNs
  present other waiting := by
    rw [Scheduler.isSome_runState_account]
    exact sleeping.present other waiting

theorem setRunning (sleeping : Sleeping waits sched) (awake : ¬ waits tid) (nowNs : Nat) :
    Sleeping waits (sched.setRunning tid nowNs) where
  asleep := sleeping.asleep.setRunning tid nowNs awake
  present other waiting := by
    rw [Scheduler.isSome_runState_setRunning]
    exact sleeping.present other waiting

theorem remove (sleeping : Sleeping waits sched) (awake : ¬ waits tid) :
    Sleeping waits (sched.remove tid) where
  asleep := sleeping.asleep.remove tid
  present other waiting := by
    have ne : other ≠ tid := fun same => awake (same ▸ waiting)
    rw [Scheduler.runState_remove, if_neg ne]
    exact sleeping.present other waiting

/-- A thread is admitted and made ready. -/
theorem admission (sleeping : Sleeping waits sched) (awake : ¬ waits tid) (priority nowNs : Nat) :
    Sleeping waits ((sched.setAdmitted tid .interactive priority none).setReady tid nowNs) := by
  by_cases inside : tid < maxThreads
  · constructor
    · exact sleeping.asleep.setAdmitted inside priority nowNs fun _ waiting =>
        ⟨waiting, fun same => awake (same ▸ waiting)⟩
    · intro other waiting
      have ne : other ≠ tid := fun same => awake (same ▸ waiting)
      rw [Scheduler.isSome_runState_setReady, Scheduler.runState_setAdmitted inside,
        if_neg ne]
      exact sleeping.present other waiting
  · rw [SchedulingOp.setAdmitted_outside (Nat.le_of_not_lt inside)]
    exact sleeping.setReady awake nowNs

theorem picked (sleeping : Sleeping waits sched) (picks : sched.pickNext = some tid) :
    ¬ waits tid :=
  sleeping.asleep.pickNext_awake picks

theorem runNext {next : Option ThreadId} (sleeping : Sleeping waits sched)
    (awake : ∀ tid, next = some tid → ¬ waits tid) (nowNs : Nat) :
    Sleeping waits (sched.runNext next nowNs) := by
  cases next with
  | none => exact sleeping
  | some tid => exact sleeping.setRunning (awake tid rfl) nowNs

theorem runAgain (sleeping : Sleeping waits sched) (awake : ¬ waits tid) (nowNs : Nat) :
    Sleeping waits (sched.runAgain tid nowNs) :=
  (sleeping.setReady awake nowNs).setRunning awake nowNs

theorem schedWithout (sleeping : Sleeping waits sched) (awake : ¬ waits tid) (nowNs : Nat) :
    Sleeping waits (KernelState.schedWithout tid nowNs sched) := by
  rw [KernelState.schedWithout]
  split
  · exact (sleeping.account nowNs).remove awake
  · exact sleeping.remove awake

end Sleeping

/-! ## Whom an operation rouses -/

/-- The threads that a syscall makes ready. -/
def Demand.rouses (caller : ThreadId) : Demand → List ThreadId
  | wake threads => threads
  | handOver receiver => [receiver]
  | answer toThread => [toThread, caller]
  | _ => []

/-- The threads that an operation makes ready, runs or removes, besides those that were ready
or running. -/
def SchedulingOp.rouses (before : KernelState) : SchedulingOp → List ThreadId
  | preemptTick _ => []
  | cooperativeYield _ => []
  | blockThread tid nowNs =>
      -- The thread runs on if no other one is ready.
      match ((before.sched.account nowNs).setBlocked tid).pickNext with
      | some next => if next ≠ tid then [] else [tid]
      | none => [tid]
  | wakeBlocked tid _ => [tid]
  | terminateThread tid _ => [tid]
  | terminateThreadAndHandoff tid incoming _ => [tid, incoming]
  | yieldToThread _ target _ => [target]
  | initUserThread tid _ _ => [tid]
  | syscall caller op _ _ => (before.demands caller op).rouses caller

namespace Sleeping

variable {waits : ThreadId → Prop} {before : KernelState}

theorem ticked (sleeping : Sleeping waits before.sched) (nowNs : Nat) :
    Sleeping waits (before.sched.ticked nowNs) := by
  have charged := sleeping.account nowNs
  rw [Scheduler.ticked]
  cases picks : (before.sched.account nowNs).pickNext with
  | some next => exact charged.setRunning (charged.picked picks) nowNs
  | none =>
      cases runs : before.sched.running with
      | none => exact charged
      | some outgoing => exact charged.runAgain (sleeping.running runs).1 nowNs

theorem yielded (sleeping : Sleeping waits before.sched) (nowNs : Nat) :
    Sleeping waits (before.sched.yielded nowNs) := by
  have charged := sleeping.account nowNs
  rw [Scheduler.yielded]
  cases runs : before.sched.running with
  | none => exact charged.runNext (fun _ picks => charged.picked picks) nowNs
  | some outgoing =>
      have awake := (sleeping.running runs).1
      have stopped := charged.setBlocked outgoing
      apply (stopped.setReady awake nowNs).setRunning
      cases picks : ((before.sched.account nowNs).setBlocked outgoing).pickNext with
      | none => exact awake
      | some next => exact stopped.picked picks

theorem blockedOr {tid : ThreadId} {nowNs : Nat} (sleeping : Sleeping waits before.sched)
    (awake : ∀ other ∈ (SchedulingOp.blockThread tid nowNs).rouses before, ¬ waits other) :
    Sleeping waits (before.sched.blockedOr tid nowNs) := by
  have stopped := (sleeping.account nowNs).setBlocked tid
  rw [SchedulingOp.rouses] at awake
  rw [Scheduler.blockedOr]
  cases picks : ((before.sched.account nowNs).setBlocked tid).pickNext with
  | none =>
      rw [picks] at awake
      exact stopped.runAgain (awake tid List.mem_cons_self) nowNs
  | some next =>
      rw [picks] at awake
      dsimp only at awake ⊢
      by_cases other : next ≠ tid
      · rw [if_pos other]
        exact stopped.setRunning (stopped.picked picks) nowNs
      · rw [if_neg other] at awake ⊢
        exact stopped.runAgain (awake tid List.mem_cons_self) nowNs

/-- A syscall, as it demands it of the scheduler. -/
theorem demanded {demand : Demand} {caller : ThreadId} {nowNs : Nat}
    (sleeping : Sleeping waits before.sched)
    (awake : ∀ tid ∈ demand.rouses caller, ¬ waits tid) (laterNs : Nat) :
    Sleeping waits ((demand.sched caller nowNs before.sched).runNext
      (demand.next caller nowNs before.sched) laterNs) := by
  cases demand with
  | nothing => exact sleeping
  | wake threads => exact sleeping.setAllReady awake nowNs
  | charge =>
      have charged := sleeping.account nowNs
      exact charged.runNext (fun _ picks => charged.picked picks) laterNs
  | sleep => exact (sleeping.account nowNs).setBlocked caller
  | park =>
      have stopped := sleeping.setBlocked caller
      exact stopped.runNext (fun _ picks => stopped.picked picks) laterNs
  | handOver receiver =>
      have unlisted := awake receiver List.mem_cons_self
      exact ((sleeping.setReady unlisted nowNs).setBlocked caller).setRunning unlisted laterNs
  | answer toThread =>
      have unlisted := awake toThread List.mem_cons_self
      have callerUnlisted := awake caller (List.mem_cons_of_mem _ List.mem_cons_self)
      exact ((sleeping.setReady unlisted nowNs).setReady callerUnlisted nowNs).setRunning
        unlisted laterNs

/-- An operation that rouses nobody who waits lets them sleep. -/
theorem resched (sleeping : Sleeping waits before.sched) {op : SchedulingOp}
    (awake : ∀ tid ∈ op.rouses before, ¬ waits tid) :
    Sleeping waits (op.resched before) := by
  cases op with
  | preemptTick nowNs => exact sleeping.ticked nowNs
  | cooperativeYield nowNs => exact sleeping.yielded nowNs
  | blockThread tid nowNs => exact sleeping.blockedOr awake
  | wakeBlocked tid nowNs => exact sleeping.setReady (awake tid List.mem_cons_self) nowNs
  | terminateThread tid nowNs =>
      have gone := sleeping.schedWithout (awake tid List.mem_cons_self) nowNs
      exact gone.runNext (fun _ picks => gone.picked picks) nowNs
  | terminateThreadAndHandoff tid incoming nowNs =>
      have gone := sleeping.schedWithout (awake tid List.mem_cons_self) nowNs
      exact gone.setRunning (awake incoming (List.mem_cons_of_mem _ List.mem_cons_self)) nowNs
  | yieldToThread source target nowNs =>
      have stopped := (sleeping.account nowNs).setBlocked source
      exact stopped.setRunning (awake target List.mem_cons_self) nowNs
  | initUserThread tid entry nowNs =>
      exact sleeping.admission (awake tid List.mem_cons_self) maxPriority nowNs
  | syscall caller op nowNs laterNs => exact sleeping.demanded awake laterNs

end Sleeping

/-! ## The lists -/

namespace KernelState

/-- The threads in the waiter lists of all notifications. -/
def waiting (state : KernelState) : List ThreadId :=
  state.notifications.gather Notification.waiters

variable {before after later state : KernelState} {nid : NotificationId} {notif : KNotification}
  {caller : ThreadId} {nowNs : Nat} {op : SyscallOp} {next : Option ThreadId}

theorem waiting_congr (same : later.notifications = state.notifications) :
    later.waiting = state.waiting := by
  rw [waiting, same]
  rfl

theorem waiting_putNotification (present : state.notifications.get? nid = some notif) :
    ∃ others, state.waiting.Perm (notif.waiters ++ others) ∧
      ∀ new, (state.putNotification nid new).waiting.Perm (new.waiters ++ others) :=
  Slab.gather_put present

/-- The bits of a notification are taken. -/
theorem waiting_taken (present : state.notifications.get? nid = some notif) :
    (state.putNotification nid { notif with signalWord := 0 }).waiting.Perm state.waiting := by
  obtain ⟨others, old, new⟩ := waiting_putNotification present
  exact (new _).trans old.symm

/-- Other syscalls than `Signal` and `Wait` leave the lists as they are. -/
theorem Effect.waiting_perm (effect : Effect caller nowNs before op next after)
    (noSignal : ∀ notification bits, op ≠ .signal notification bits)
    (noWait : ∀ notification, op ≠ .wait notification) :
    after.waiting.Perm before.waiting := by
  cases effect with
  | retyped holds present reserved created newPages =>
      have grown : after.waiting = before.waiting :=
        created.notifications.gather fun _ notification new => by rw [new]; rfl
      rw [grown]
  | sent => exact .of_eq (waiting_congr (notifications_handOver ..))
  | called holds present waiting admitted final =>
      rw [final]
      apply List.Perm.of_eq
      apply waiting_congr
      rw [notifications_block, notifications_handOver]
      rfl
  | callStuck => exact .of_eq (waiting_congr (notifications_handOver ..))
  | queued isSend holds present noReceiver final =>
      rw [final]
      exact .of_eq (waiting_congr (notifications_block ..))
  | received => exact .of_eq (waiting_congr (notifications_release ..))
  | awaiting holds present noSender final =>
      rw [final]
      exact .of_eq (waiting_congr (notifications_block ..))
  | replied => exact .of_eq (waiting_congr (notifications_updateTcb ..))
  | replyStuck => exact .of_eq (waiting_congr (notifications_updateTcb ..))
  | signalled => exact absurd rfl (noSignal _ _)
  | waiting => exact absurd rfl (noWait _)
  | taken isRead holds present => exact waiting_taken present
  | bound =>
      apply List.Perm.of_eq
      apply waiting_congr
      rw [bindIrq_frame]
  | _ => exact .refl _

end KernelState

namespace SchedulingOp

variable {μ : Type} {hal : HalInterface μ} {before after : Machine μ} {op : SchedulingOp}

/-- The operation is a `Signal` or a `Wait`. -/
def notifies : SchedulingOp → Bool
  | syscall _ (.signal _ _) _ _ => true
  | syscall _ (.wait _) _ _ => true
  | _ => false

theorem waiting_committed (next : Option ThreadId) (nowNs : Nat) (kernel : KernelState) :
    (Machine.committed next nowNs kernel).waiting = kernel.waiting := by
  cases next with
  | none => rfl
  | some next => rfl

/-- Other operations leave the lists as they are. -/
theorem waiting_of_step (taken : (system hal).Step before op after)
    (other : op.notifies = false) : after.kernel.waiting.Perm before.kernel.waiting := by
  change (op.exec hal before).state? = some after at taken
  cases op with
  | preemptTick nowNs =>
      have ended := Machine.discard_state (Machine.onKernel_state taken).1
      rw [KernelState.preemptTick_run] at ended
      rw [← Option.some.inj ended]
      exact .refl _
  | cooperativeYield nowNs =>
      obtain ⟨step, ran, _⟩ := KernelState.cooperativeYield_run nowNs before.kernel
      have ended := Machine.discard_state (Machine.onKernel_state taken).1
      rw [ran] at ended
      rw [← Option.some.inj ended]
      exact .refl _
  | blockThread tid nowNs =>
      obtain ⟨step, ran, _⟩ := KernelState.blockThread_run tid nowNs before.kernel
      have ended := Machine.discard_state (Machine.onKernel_state taken).1
      rw [ran] at ended
      rw [← Option.some.inj ended]
      exact .refl _
  | wakeBlocked tid nowNs =>
      have ended := (Machine.onKernel_state taken).1
      rw [KernelState.wakeBlocked_run] at ended
      rw [← Option.some.inj ended]
      exact .refl _
  | terminateThread tid nowNs =>
      have ended := Machine.discard_state (Machine.onKernel_state taken).1
      rw [KernelState.terminateThread_run] at ended
      rw [← Option.some.inj ended]
      exact .of_eq (KernelState.waiting_congr (KernelState.notifications_updateTcb ..))
  | terminateThreadAndHandoff tid incoming nowNs =>
      have ended := (Machine.onKernel_state taken).1
      rw [KernelState.terminateThreadAndHandoff_run] at ended
      rw [← Option.some.inj ended]
      exact .of_eq (KernelState.waiting_congr (KernelState.notifications_updateTcb ..))
  | yieldToThread source target nowNs =>
      have ended := Machine.discard_state (Machine.onKernel_state taken).1
      rw [KernelState.yieldToThread_run] at ended
      rw [← Option.some.inj ended]
      exact .refl _
  | initUserThread tid entry nowNs =>
      have ended := (Machine.onKernel_state taken).1
      rw [KernelState.initUserThread, KernelState.admitThread_run] at ended
      rw [← Option.some.inj ended]
      exact .of_eq (KernelState.waiting_congr (KernelState.notifications_updateTcb ..))
  | syscall caller call nowNs laterNs =>
      have noSignal : ∀ notification bits, call ≠ .signal notification bits := by
        rintro notification bits rfl
        cases other
      have noWait : ∀ notification, call ≠ .wait notification := by
        rintro notification rfl
        cases other
      have ends : EndsIn
          (fun next (final : Machine μ) =>
            KernelState.Effect caller nowNs before.kernel call next final.kernel)
          (Machine.dispatch hal caller nowNs call before) := Machine.dispatch_ends hal call before
      rcases Exec.bind_state.1 taken with ⟨error, failed⟩ | ⟨result, middle, ran, rest⟩
      · rw [failed] at ends
        exact ends.waiting_perm noSignal noWait
      · rw [ran] at ends
        have ended := (Machine.onKernel_state rest).1
        rw [Machine.commit_run] at ended
        rw [← Option.some.inj ended, waiting_committed]
        exact ends.waiting_perm noSignal noWait

end SchedulingOp

/-! ## What one operation keeps -/

/-- The thread that takes bits with a `Wait`. -/
def SchedulingOp.taker? (before : KernelState) : SchedulingOp → Option ThreadId
  | syscall caller (.wait notification) _ _ =>
      (before.notificationAt caller notification .read).bind fun notif =>
        if notif.signalWord ≠ 0 then some caller else none
  | _ => none

/-- Nobody in a list is roused by another operation than a `Signal`, and a `Wait` that takes
bits is made by a thread whose entity is `Running`. -/
def SchedulingOp.Spares (op : SchedulingOp) (before : KernelState) : Prop :=
  (op.notifies = false → ∀ tid ∈ op.rouses before, tid ∉ before.waiting) ∧
    ∀ caller ∈ op.taker? before, before.sched.runState caller = some .running

instance (op : SchedulingOp) (before : KernelState) : Decidable (op.Spares before) :=
  inferInstanceAs (Decidable (_ ∧ _))

/-- Each thread is in one list at most, and sleeps there. -/
structure Waiting (state : KernelState) : Prop where
  nodup : state.waiting.Nodup
  sleeping : Sleeping (· ∈ state.waiting) state.sched

namespace Waiting

variable {before after : KernelState} {nid : NotificationId} {notif : KNotification}
  {tid : ThreadId} {nowNs : Nat}

theorem blocked (waiting : Waiting before) (listed : tid ∈ before.waiting) :
    before.sched.runState tid = some .blocked :=
  waiting.sleeping.blocked listed

/-- The same threads are in the lists, and still sleep. -/
theorem of_perm (waiting : Waiting before) (same : after.waiting.Perm before.waiting)
    (sleeping : Sleeping (· ∈ before.waiting) after.sched) : Waiting after where
  nodup := same.nodup_iff.2 waiting.nodup
  sleeping := sleeping.of_waits fun _ listed => same.mem_iff.1 listed

/-- A notification is signalled, and its waiters are woken. -/
theorem signalled (waiting : Waiting before)
    (present : before.notifications.get? nid = some notif) (word nowNs : Nat) :
    Waiting { before.putNotification nid { signalWord := word, waiters := [] } with
      sched := before.sched.setAllReady nowNs notif.waiters } := by
  obtain ⟨others, old, new⟩ := KernelState.waiting_putNotification present
  have left : (before.putNotification nid { signalWord := word, waiters := [] }).waiting.Perm
      others := new _
  obtain ⟨_, nodup, apart⟩ := List.nodup_append.1 (old.nodup_iff.1 waiting.nodup)
  constructor
  · exact left.nodup_iff.2 nodup
  · have fewer : Sleeping (· ∈ others) before.sched :=
      waiting.sleeping.of_waits fun _ listed => old.mem_iff.2 (List.mem_append_right _ listed)
    have woken := fewer.setAllReady (fun _ woken listed => apart _ woken _ listed rfl) nowNs
    exact woken.of_waits fun _ listed => left.mem_iff.1 listed

/-- A thread in no list begins to wait. -/
theorem waits (waiting : Waiting before)
    (present : before.notifications.get? nid = some notif) (fresh : tid ∉ before.waiting)
    (there : (before.sched.runState tid).isSome) (word nowNs : Nat) :
    Waiting { before.putNotification nid
        { signalWord := word, waiters := notif.waiters ++ [tid] } with
      sched := (before.sched.account nowNs).setBlocked tid } := by
  obtain ⟨others, old, new⟩ := KernelState.waiting_putNotification present
  have joined : (before.putNotification nid
      { signalWord := word, waiters := notif.waiters ++ [tid] }).waiting.Perm
        (tid :: before.waiting) := by
    refine (new _).trans ?_
    change (notif.waiters ++ [tid] ++ others).Perm _
    rw [List.append_assoc]
    exact List.perm_middle.trans (old.symm.cons tid)
  constructor
  · exact joined.nodup_iff.2 (List.nodup_cons.2 ⟨fresh, waiting.nodup⟩)
  · have charged := waiting.sleeping.account nowNs
    rw [← Scheduler.isSome_runState_account nowNs] at there
    apply charged.sleep there
    intro other listed
    exact List.mem_cons.1 (joined.mem_iff.1 listed)

/-- What is pending is taken. -/
theorem taken (waiting : Waiting before)
    (present : before.notifications.get? nid = some notif) :
    Waiting (before.putNotification nid { notif with signalWord := 0 }) :=
  waiting.of_perm (KernelState.waiting_taken present) waiting.sleeping

section Machines

variable {μ : Type} {hal : HalInterface μ} {before middle after : Machine μ}
  {caller : ThreadId} {call : SyscallOp} {cap : CapId} {nowNs laterNs : Nat}

theorem after_of_failure {error : SyscallError}
    (failed : Machine.dispatch hal caller nowNs call before = .err error middle)
    (stepped : (SchedulingOp.system hal).Step before (.syscall caller call nowNs laterNs) after) :
    after = middle := by
  change ((Machine.dispatch hal caller nowNs call >>= fun result =>
    Machine.onKernel (Machine.commit result.next laterNs)) before).state? = some after at stepped
  rw [Exec.bind_of_err failed] at stepped
  exact (Option.some.inj stepped).symm

/-- After an answer that names no thread there is no switch. -/
theorem after_of_answer {result : SyscallReturn}
    (ran : Machine.dispatch hal caller nowNs call before = .ok result middle)
    (stays : result.next = none)
    (stepped : (SchedulingOp.system hal).Step before (.syscall caller call nowNs laterNs) after) :
    after = middle := by
  change ((Machine.dispatch hal caller nowNs call >>= fun result =>
    Machine.onKernel (Machine.commit result.next laterNs)) before).state? = some after at stepped
  rw [Exec.bind_of_ok ran, stays] at stepped
  exact (Option.some.inj stepped).symm

/-- How a `Wait` ends: it changes nothing, or takes the bits, or the caller sleeps. -/
theorem wait_cases (hal : HalInterface μ) (caller : ThreadId) (cap : CapId) (nowNs : Nat)
    (before : Machine μ) :
    (∃ error, Machine.dispatch hal caller nowNs (.wait cap) before = .err error before) ∨
    ∃ nid notif, before.kernel.notificationAt caller cap .read = some notif ∧
      before.kernel.notifications.get? nid = some notif ∧
      (notif.signalWord ≠ 0 ∧
          Machine.dispatch hal caller nowNs (.wait cap) before = .ok (.value notif.signalWord)
            { before with
              kernel := before.kernel.putNotification nid { notif with signalWord := 0 } } ∨
        (notif.signalWord = 0 ∧ notif.waiters.length < notifWaiters) ∧
          Machine.dispatch hal caller nowNs (.wait cap) before = .ok .blocked
            { before with
              kernel := { before.kernel.putNotification nid
                  { signalWord := 0, waiters := notif.waiters ++ [caller] } with
                sched := (before.kernel.sched.account nowNs).setBlocked caller } }) := by
  rcases KernelState.doWait_cases caller nowNs cap before.kernel with
    ⟨error, failed⟩ | ⟨held, notif, resolved, present, ⟨pending, ran⟩ | ⟨empty, ran⟩⟩
  · exact .inl ⟨error, Machine.onKernel_of_err failed⟩
  · have named : before.kernel.notificationAt caller cap .read = some notif := by
      rw [KernelState.notificationAt, resolved]
      exact present
    exact .inr ⟨_, notif, named, present, .inl ⟨pending, Machine.onKernel_of_ok ran⟩⟩
  · have named : before.kernel.notificationAt caller cap .read = some notif := by
      rw [KernelState.notificationAt, resolved]
      exact present
    exact .inr ⟨_, notif, named, present, .inr ⟨empty, Machine.onKernel_of_ok ran⟩⟩

/-- Every operation keeps the lists right, if it spares those who wait and `Wait` comes from
the running thread. -/
theorem scheduled {op : SchedulingOp} (waiting : Waiting before.kernel)
    (stepped : (SchedulingOp.system hal).Step before op after)
    (issued : ∀ caller cap nowNs laterNs, op = .syscall caller (.wait cap) nowNs laterNs →
      before.kernel.sched.running = some caller)
    (spares : op.Spares before.kernel) : Waiting after.kernel := by
  cases notifies : op.notifies with
  | false =>
      apply waiting.of_perm (SchedulingOp.waiting_of_step stepped notifies)
      rw [SchedulingOp.sched_of_step hal stepped]
      exact waiting.sleeping.resched (spares.1 notifies)
  | true =>
      cases op with
      | syscall caller call nowNs laterNs =>
          cases call with
          | signal cap bits =>
              rcases KernelState.doSignal_cases caller nowNs cap bits before.kernel with
                ⟨error, failed⟩ | ⟨held, notif, resolved, present, ran⟩
              · have refused : Machine.dispatch hal caller nowNs (.signal cap bits) before =
                    .err error before := Machine.onKernel_of_err failed
                rw [after_of_failure refused stepped]
                exact waiting
              · have answered : Machine.dispatch hal caller nowNs (.signal cap bits) before =
                    .ok .done _ := Machine.onKernel_of_ok ran
                rw [after_of_answer answered rfl stepped]
                exact waiting.signalled present _ nowNs
          | wait cap =>
              obtain ⟨unlisted, there⟩ :=
                waiting.sleeping.running (issued caller cap nowNs laterNs rfl)
              rcases wait_cases hal caller cap nowNs before with
                ⟨error, refused⟩ | ⟨nid, notif, named, present, ⟨_, answered⟩ | ⟨_, answered⟩⟩
              · rw [after_of_failure refused stepped]
                exact waiting
              · rw [after_of_answer answered rfl stepped]
                exact waiting.taken present
              · rw [after_of_answer answered rfl stepped]
                exact waiting.waits present unlisted there 0 nowNs
          | _ => cases notifies
      | _ => cases notifies

end Machines

/-- At boot there is no notification. -/
theorem of_boots {μ : Type} {machine : Machine μ} (boots : machine.Boots) :
    Waiting machine.kernel := by
  have asleep := (Resting.of_boots boots).asleep
  obtain ⟨kernel, fromBoot, same⟩ := boots
  have none := fromBoot.booted.notifications
  have empty : machine.kernel.notifications = .empty := by
    rcases same with same | ⟨base, len, same⟩
    · rw [same, none]
    · rw [same]
      exact none
  have nobody : ∀ tid, tid ∉ machine.kernel.waiting := by
    intro tid listed
    rw [KernelState.waiting, empty] at listed
    obtain ⟨nid, notif, present, _⟩ := Slab.mem_gather.1 listed
    rw [Slab.get?_empty] at present
    cases present
  constructor
  · rw [List.eq_nil_iff_forall_not_mem.2 nobody]
    exact List.nodup_nil
  · constructor
    · exact asleep.of_waits nobody
    · exact fun tid listed => absurd listed (nobody tid)

end Waiting

end Simurgh
