import Simurgh.Core.Run
import Simurgh.Lib.SignalLog

/-!
# Signals of a notification

What `Signal`, `Wait` and `Poll` have answered about one notification is logged over whole
runs of the kernel.  No signal is lost, and no thread is left waiting for a signal that is
there.
-/

namespace Simurgh

open SignalLog

/-- The syscalls that set or take the bits of a notification, or wait for them. -/
def SyscallOp.usesSignals : SyscallOp → Bool
  | .signal _ _ => true
  | .wait _ => true
  | .poll _ => true
  | _ => false

namespace KernelState

/-! ## Entries of the log -/

/-- Does the caller reach the notification with this capability? -/
def signals (state : KernelState) (caller : ThreadId) (cap : CapId)
    (needed : CapabilityRights) (nid : NotificationId) : Bool :=
  match state.resolve caller cap .notification needed with
  | .ok held => held.object.id == nid
  | .error _ => false

/-- What a syscall with this answer has done to the notification. -/
def signalEntry (nid : NotificationId) (state : KernelState) (caller : ThreadId) :
    SyscallOp → Option SyscallReturn → Option (SignalEntry ThreadId)
  | .signal cap bits, some .done =>
      if state.signals caller cap .write nid then some (.signalled bits) else none
  | .wait cap, some (.value bits) =>
      if state.signals caller cap .read nid then some (.taken bits) else none
  | .wait cap, some .blocked =>
      if state.signals caller cap .read nid then some (.blocked caller) else none
  | .poll cap, some (.value bits) =>
      if state.signals caller cap .read nid then some (.taken bits) else none
  | _, _ => none

theorem signals_iff {state : KernelState} {caller : ThreadId} {cap : CapId}
    {needed : CapabilityRights} {nid : NotificationId} {held : Capability}
    (resolved : state.resolve caller cap .notification needed = .ok held) :
    state.signals caller cap needed nid = true ↔ held.object.id = nid := by
  rw [signals, resolved]
  exact beq_iff_eq

/-- How an entry goes with a change of the notification. -/
inductive Notified :
    Option KNotification → Option (SignalEntry ThreadId) → Option KNotification → Prop where
  | kept (notif) : Notified notif none notif
  | created : Notified none none (some .new)
  | signalled {notif : KNotification} (bits) :
      Notified (some notif) (some (.signalled bits))
        (some { signalWord := notif.signalWord ||| bits, waiters := [] })
  | taken {notif : KNotification} :
      Notified (some notif) (some (.taken notif.signalWord))
        (some { notif with signalWord := 0 })
  | blocked {notif : KNotification} (thread) (nothing : notif.signalWord = 0) :
      Notified (some notif) (some (.blocked thread))
        (some { signalWord := 0, waiters := notif.waiters ++ [thread] })

theorem Notified.of_same {before after : KernelState} (nid : NotificationId)
    (same : after.notifications = before.notifications) :
    Notified (before.notifications.get? nid) none (after.notifications.get? nid) := by
  rw [same]
  exact .kept _

theorem Notified.of_grows {before after : KernelState}
    (grows : before.notifications.GrowsBy (fun _ notification => notification = .new)
      after.notifications) (nid : NotificationId) :
    Notified (before.notifications.get? nid) none (after.notifications.get? nid) := by
  rcases grows nid with kept | ⟨vacant, notification, made, rfl⟩
  · rw [kept]
    exact .kept _
  · rw [vacant, made]
    exact .created

/-- A notification is stored.  The entry belongs to this one or to another. -/
theorem Notified.of_put {state after : KernelState} {id : NotificationId}
    {old new : KNotification} {entry : SignalEntry ThreadId}
    (present : state.notifications.get? id = some old)
    (stored : after.notifications = (state.putNotification id new).notifications)
    (change : Notified (some old) (some entry) (some new)) (nid : NotificationId)
    {reached : Bool} (names : reached = true ↔ id = nid) :
    Notified (state.notifications.get? nid) (if reached then some entry else none)
      (after.notifications.get? nid) := by
  have later : after.notifications.get? nid =
      if id = nid then some new else state.notifications.get? nid := by
    rw [stored]
    exact Slab.get?_put_of_some present nid new
  rw [later]
  by_cases here : id = nid
  · rw [if_pos (names.2 here), if_pos here, ← here, present]
    exact change
  · rw [if_neg fun reaches => here (names.1 reaches), if_neg here]
    exact .kept _

theorem notifications_updateTcb (id : ThreadId) (update : Tcb → Tcb) (state : KernelState) :
    (state.updateTcb id update).notifications = state.notifications := by
  rw [updateTcb_frame]

theorem notifications_block (tid : ThreadId) (blocked : ThreadState) (state : KernelState) :
    (state.block tid blocked).notifications = state.notifications :=
  notifications_updateTcb ..

theorem notifications_handOver (receiver sender : ThreadId) (msg : SmallMessage) (nowNs : Nat)
    (state : KernelState) :
    (state.handOver receiver sender msg nowNs).notifications = state.notifications :=
  notifications_updateTcb ..

theorem notifications_release (sender : ThreadId) (nowNs : Nat) (state : KernelState) :
    (state.release sender nowNs).notifications = state.notifications :=
  notifications_updateTcb ..

/-- The other syscalls do nothing to it. -/
theorem Effect.notified {caller : ThreadId} {nowNs : Nat} {before after : KernelState}
    {op : SyscallOp} {next : Option ThreadId}
    (effect : Effect caller nowNs before op next after)
    (other : op.usesSignals = false) (nid : NotificationId) :
    Notified (before.notifications.get? nid) none (after.notifications.get? nid) := by
  cases effect with
  | retyped holds present reserved created newPages => exact .of_grows created.notifications nid
  | sent => exact .of_same nid (notifications_handOver ..)
  | called holds present waiting admitted final =>
      rw [final]
      apply Notified.of_same nid
      rw [notifications_block, notifications_handOver]
      rfl
  | callStuck => exact .of_same nid (notifications_handOver ..)
  | queued isSend holds present noReceiver final =>
      rw [final]
      exact .of_same nid (notifications_block ..)
  | received => exact .of_same nid (notifications_release ..)
  | awaiting holds present noSender final =>
      rw [final]
      exact .of_same nid (notifications_block ..)
  | replied => exact .of_same nid (notifications_updateTcb ..)
  | replyStuck => exact .of_same nid (notifications_updateTcb ..)
  | signalled => cases other
  | waiting => cases other
  | taken isRead =>
      rcases isRead with rfl | rfl
      · cases other
      · cases other
  | bound =>
      apply Notified.of_same nid
      rw [bindIrq_frame]
  | _ => exact .kept _

end KernelState

namespace Machine

open KernelState

variable {μ : Type} (hal : HalInterface μ) (nid : NotificationId)

/-! ## Steps -/

/-- What an event has done to the notification, as its caller sees it. -/
def signalEntry (before : Machine μ) : KernelEvent → Option (SignalEntry ThreadId)
  | .syscall caller op nowNs =>
      before.kernel.signalEntry nid caller op (dispatch hal caller nowNs op before).value?
  | _ => none

section Steps

variable {hal nid}
variable {before middle after : Machine μ} {caller : ThreadId} {op : SyscallOp} {nowNs : Nat}

theorem after_of_err {error : SyscallError}
    (failed : dispatch hal caller nowNs op before = .err error middle)
    (taken : (system hal).Step before (.syscall caller op nowNs) after) : after = middle := by
  change ((dispatch hal caller nowNs op >>= fun result =>
    onKernel (commit result.next nowNs)) before).state? = some after at taken
  rw [Exec.bind_of_err failed] at taken
  exact (Option.some.inj taken).symm

/-- After an answer that names no thread there is no switch. -/
theorem after_of_ok {result : SyscallReturn}
    (ran : dispatch hal caller nowNs op before = .ok result middle) (stays : result.next = none)
    (taken : (system hal).Step before (.syscall caller op nowNs) after) : after = middle := by
  change ((dispatch hal caller nowNs op >>= fun result =>
    onKernel (commit result.next nowNs)) before).state? = some after at taken
  rw [Exec.bind_of_ok ran, stays] at taken
  exact (Option.some.inj taken).symm

/-- Events other than the three calls do nothing to the notification. -/
theorem Moves.notified {before after : KernelState} {event : KernelEvent}
    (moves : Moves before event after)
    (other : ∀ caller op nowNs, event = .syscall caller op nowNs → op.usesSignals = false) :
    Notified (before.notifications.get? nid) none (after.notifications.get? nid) := by
  cases moves with
  | ticked => exact .kept _
  | @called caller op nowNs next later effect =>
      have notified := effect.notified (other caller op nowNs rfl) nid
      cases next with
      | none => exact notified
      | some next => exact notified
  | started => exact .of_same nid (notifications_updateTcb ..)
  | killed => exact .of_same nid (notifications_updateTcb ..)
  | spawned isSpawn spawns =>
      apply Notified.of_same nid
      rw [spawns.frame]
  | grantedInto => exact .kept _

theorem signalEntry_of_err {error : SyscallError}
    (failed : dispatch hal caller nowNs op before = .err error middle) :
    signalEntry hal nid before (.syscall caller op nowNs) =
      before.kernel.signalEntry nid caller op none := by
  rw [signalEntry, failed]
  rfl

theorem signalEntry_of_ok {result : SyscallReturn}
    (ran : dispatch hal caller nowNs op before = .ok result middle) :
    signalEntry hal nid before (.syscall caller op nowNs) =
      before.kernel.signalEntry nid caller op (some result) := by
  rw [signalEntry, ran]
  rfl

theorem signal_notified {cap : CapId} {bits : Nat}
    (taken : (system hal).Step before (.syscall caller (.signal cap bits) nowNs) after) :
    Notified (before.kernel.notifications.get? nid)
      (signalEntry hal nid before (.syscall caller (.signal cap bits) nowNs))
      (after.kernel.notifications.get? nid) := by
  rcases doSignal_cases caller nowNs cap bits before.kernel with
    ⟨error, failed⟩ | ⟨held, notif, resolved, present, ran⟩
  · have refused : dispatch hal caller nowNs (.signal cap bits) before = .err error before :=
      onKernel_of_err failed
    rw [after_of_err refused taken, signalEntry_of_err refused]
    exact .kept _
  · have answered : dispatch hal caller nowNs (.signal cap bits) before = .ok .done _ :=
      onKernel_of_ok ran
    rw [after_of_ok answered rfl taken, signalEntry_of_ok answered]
    exact .of_put present rfl (.signalled bits) nid (signals_iff resolved)

theorem poll_notified {cap : CapId}
    (taken : (system hal).Step before (.syscall caller (.poll cap) nowNs) after) :
    Notified (before.kernel.notifications.get? nid)
      (signalEntry hal nid before (.syscall caller (.poll cap) nowNs))
      (after.kernel.notifications.get? nid) := by
  rcases doPoll_cases caller cap before.kernel with
    ⟨error, failed⟩ | ⟨held, notif, resolved, present, ran⟩
  · have refused : dispatch hal caller nowNs (.poll cap) before = .err error before :=
      onKernel_of_err failed
    rw [after_of_err refused taken, signalEntry_of_err refused]
    exact .kept _
  · have answered : dispatch hal caller nowNs (.poll cap) before =
        .ok (.value notif.signalWord) _ := onKernel_of_ok ran
    rw [after_of_ok answered rfl taken, signalEntry_of_ok answered]
    exact .of_put present rfl .taken nid (signals_iff resolved)

theorem wait_notified {cap : CapId}
    (taken : (system hal).Step before (.syscall caller (.wait cap) nowNs) after) :
    Notified (before.kernel.notifications.get? nid)
      (signalEntry hal nid before (.syscall caller (.wait cap) nowNs))
      (after.kernel.notifications.get? nid) := by
  rcases doWait_cases caller nowNs cap before.kernel with
    ⟨error, failed⟩ | ⟨held, notif, resolved, present, ⟨_, ran⟩ | ⟨⟨nothing, _⟩, ran⟩⟩
  · have refused : dispatch hal caller nowNs (.wait cap) before = .err error before :=
      onKernel_of_err failed
    rw [after_of_err refused taken, signalEntry_of_err refused]
    exact .kept _
  · have answered : dispatch hal caller nowNs (.wait cap) before =
        .ok (.value notif.signalWord) _ := onKernel_of_ok ran
    rw [after_of_ok answered rfl taken, signalEntry_of_ok answered]
    exact .of_put present rfl .taken nid (signals_iff resolved)
  · have answered : dispatch hal caller nowNs (.wait cap) before = .ok .blocked _ :=
      onKernel_of_ok ran
    rw [after_of_ok answered rfl taken, signalEntry_of_ok answered]
    exact .of_put present rfl (.blocked caller nothing) nid (signals_iff resolved)

/-- What one event does to the notification. -/
theorem step_notified {event : KernelEvent} (taken : (system hal).Step before event after) :
    Notified (before.kernel.notifications.get? nid) (signalEntry hal nid before event)
      (after.kernel.notifications.get? nid) := by
  have moves := step_moves hal taken
  cases event with
  | syscall caller op nowNs =>
      have quiet : op.usesSignals = false →
          Notified (before.kernel.notifications.get? nid) none
            (after.kernel.notifications.get? nid) := by
        intro other
        apply moves.notified
        intro _ _ _ same
        cases same
        exact other
      cases op with
      | signal cap bits => exact signal_notified taken
      | wait cap => exact wait_notified taken
      | poll cap => exact poll_notified taken
      | _ => exact quiet rfl
  | _ =>
      apply moves.notified
      intro _ _ _ same
      cases same

/-- A signal that reaches the notification wakes its waiters. -/
theorem signal_wakes {cap : CapId} {bits : Nat} {notif : KNotification}
    {entry : SignalEntry ThreadId} (there : before.kernel.notifications.get? nid = some notif)
    (logged : signalEntry hal nid before (.syscall caller (.signal cap bits) nowNs) = some entry)
    (taken : (system hal).Step before (.syscall caller (.signal cap bits) nowNs) after) :
    ∀ tid ∈ notif.waiters, after.kernel.sched.runState tid =
      (before.kernel.sched.runState tid).map fun _ => .ready := by
  intro tid waits
  rcases doSignal_cases caller nowNs cap bits before.kernel with
    ⟨error, failed⟩ | ⟨held, found, resolved, present, ran⟩
  · have refused : dispatch hal caller nowNs (.signal cap bits) before = .err error before :=
      onKernel_of_err failed
    rw [signalEntry_of_err refused] at logged
    cases logged
  · have answered : dispatch hal caller nowNs (.signal cap bits) before = .ok .done _ :=
      onKernel_of_ok ran
    rw [signalEntry_of_ok answered] at logged
    have here : held.object.id = nid := by
      by_contra elsewhere
      have missed : before.kernel.signals caller cap .write nid = false := by
        rw [Bool.eq_false_iff]
        exact fun reaches => elsewhere ((signals_iff resolved).1 reaches)
      rw [KernelState.signalEntry, if_neg (by simp [missed])] at logged
      cases logged
    rw [here, there, Option.some.injEq] at present
    rw [after_of_ok answered rfl taken, ← present]
    change (before.kernel.sched.setAllReady nowNs notif.waiters).runState tid = _
    rw [Scheduler.runState_setAllReady, if_pos waits]

/-- A thread that has to wait is blocked. -/
theorem wait_blocks {cap : CapId}
    (logged : signalEntry hal nid before (.syscall caller (.wait cap) nowNs) =
      some (.blocked caller))
    (taken : (system hal).Step before (.syscall caller (.wait cap) nowNs) after)
    (admitted : (before.kernel.sched.entity caller).isSome) :
    after.kernel.sched.runState caller = some .blocked := by
  rcases doWait_cases caller nowNs cap before.kernel with
    ⟨error, failed⟩ | ⟨held, found, resolved, present, ⟨_, ran⟩ | ⟨_, ran⟩⟩
  · have refused : dispatch hal caller nowNs (.wait cap) before = .err error before :=
      onKernel_of_err failed
    rw [signalEntry_of_err refused] at logged
    cases logged
  · have answered : dispatch hal caller nowNs (.wait cap) before =
        .ok (.value found.signalWord) _ := onKernel_of_ok ran
    rw [signalEntry_of_ok answered, KernelState.signalEntry] at logged
    split at logged
    · cases logged
    · cases logged
  · have answered : dispatch hal caller nowNs (.wait cap) before = .ok .blocked _ :=
      onKernel_of_ok ran
    rw [after_of_ok answered rfl taken]
    change ((before.kernel.sched.account nowNs).setBlocked caller).runState caller = _
    rw [Scheduler.runState_setBlocked, if_pos rfl]
    obtain ⟨entity, there⟩ := Option.isSome_iff_exists.1 admitted
    rcases Scheduler.runState_account nowNs before.kernel.sched caller with kept | ⟨_, ready⟩
    · rw [kept, Scheduler.runState, there]
      rfl
    · rw [ready]
      rfl

end Steps

/-! ## Runs -/

/-- The kernel, with the log of one notification. -/
def signalling : TransitionSystem (Machine μ × List (SignalEntry ThreadId)) KernelEvent :=
  (system hal).recording
    (fun before event _ log => log ++ (signalEntry hal nid before event).toList) []

/-- Nothing is logged before the notification exists, and from then on the log accounts
for it. -/
def Tracks (log : List (SignalEntry ThreadId)) : Option KNotification → Prop
  | none => log = []
  | some notif => Accounts log notif.signalWord notif.waiters

theorem Tracks.step {log : List (SignalEntry ThreadId)} {before after : Option KNotification}
    {entry : Option (SignalEntry ThreadId)} (tracks : Tracks log before)
    (notified : Notified before entry after) : Tracks (log ++ entry.toList) after := by
  cases notified with
  | kept =>
      rw [Option.toList_none, List.append_nil]
      exact tracks
  | created =>
      have empty : log = [] := tracks
      rw [empty]
      exact .nil
  | @signalled notif bits =>
      have accounts : Accounts log notif.signalWord notif.waiters := tracks
      exact accounts.signal bits
  | @taken notif =>
      have accounts : Accounts log notif.signalWord notif.waiters := tracks
      exact accounts.take
  | @blocked notif thread nothing =>
      have accounts : Accounts log notif.signalWord notif.waiters := tracks
      rw [nothing] at accounts
      exact accounts.block thread

theorem tracks_of_reachable {state : Machine μ × List (SignalEntry ThreadId)}
    (reachable : (signalling hal nid).Reachable TransitionSystem.anyStep state) :
    Tracks state.2 (state.1.kernel.notifications.get? nid) := by
  apply reachable.invariant
  · rintro start ⟨⟨kernel, fromBoot, booted⟩, fresh⟩
    have empty : start.1.kernel.notifications = .empty := by
      have none := fromBoot.booted.notifications
      rcases booted with same | ⟨base, len, same⟩
      · rw [same, none]
      · rw [same]
        exact none
    rw [empty, Slab.get?_empty, fresh]
    rfl
  · rintro before event after _ tracks ⟨taken, recorded⟩
    rw [recorded]
    exact tracks.step (step_notified taken)

/-- In every run of the kernel, whatever the threads signal, wait for and poll: the bits
taken and the pending ones together are the bits signalled, a bit is taken only if it was
signalled and not taken since, and no thread waits while a bit is pending.  A signal makes
every thread ready that began to wait before it. -/
theorem no_signal_lost {machine : Machine μ} {log : List (SignalEntry ThreadId)}
    (reachable : (signalling hal nid).Reachable TransitionSystem.anyStep (machine, log)) :
    (∀ notif, machine.kernel.notifications.get? nid = some notif →
      Accounts log notif.signalWord notif.waiters) ∧
    (∀ caller cap bits nowNs after,
      (system hal).Step machine (.syscall caller (.signal cap bits) nowNs) after →
      signalEntry hal nid machine (.syscall caller (.signal cap bits) nowNs) =
          some (.signalled bits) →
        ∀ tid ∈ blockedSince log, after.kernel.sched.runState tid =
          (machine.kernel.sched.runState tid).map fun _ => .ready) ∧
    ∀ caller cap nowNs after,
      (system hal).Step machine (.syscall caller (.wait cap) nowNs) after →
      signalEntry hal nid machine (.syscall caller (.wait cap) nowNs) =
          some (.blocked caller) →
        (machine.kernel.sched.entity caller).isSome →
          after.kernel.sched.runState caller = some .blocked := by
  have tracks := tracks_of_reachable hal nid reachable
  refine ⟨?_, ?_, ?_⟩
  · intro notif present
    change Tracks log (machine.kernel.notifications.get? nid) at tracks
    rw [present] at tracks
    exact tracks
  · intro caller cap bits nowNs after taken logged tid waits
    have notified : Notified (machine.kernel.notifications.get? nid) (some (.signalled bits))
        (after.kernel.notifications.get? nid) := by
      rw [← logged]
      exact step_notified taken
    cases before : machine.kernel.notifications.get? nid with
    | none =>
        rw [before] at notified
        cases notified
    | some notif =>
        change Tracks log (machine.kernel.notifications.get? nid) at tracks
        rw [before] at tracks
        have accounts : Accounts log notif.signalWord notif.waiters := tracks
        rw [← accounts.waiting] at waits
        exact signal_wakes before logged taken tid waits
  · intro caller cap nowNs after taken logged admitted
    exact wait_blocks logged taken admitted

/-! ## A run -/

/-- The root task makes a notification, waits for it, and is signalled. -/
def waitsThenSignalled : List KernelEvent :=
  [.syscall 0 (.retype 0 .notification 1) 1,
    .syscall 0 (.wait 2) 2,
    .syscall 0 (.signal 2 5) 3]

/-- After the run both bits of the signal are pending and nobody waits. -/
theorem no_signal_lost_sample :
    ∃ (machine : Machine Unit) (log : List (SignalEntry ThreadId)) (notif : KNotification),
      log = [.blocked 0, .signalled 5] ∧
        machine.kernel.notifications.get? 0 = some notif ∧
        Accounts log notif.signalWord notif.waiters := by
  have ran : (TransitionSystem.runWhile
      (TransitionSystem.nextRecorded (next sampleHal) fun before event _ log =>
        log ++ (signalEntry sampleHal 0 before event).toList)
      (fun _ _ => true) waitsThenSignalled (sampleMachine, [])).any fun state =>
        state.2 = [.blocked 0, .signalled 5] ∧
          (state.1.kernel.notifications.get? 0).isSome := by
    decide +kernel
  obtain ⟨⟨machine, log⟩, reached, facts⟩ := (Option.any_eq_true _ _).1 ran
  obtain ⟨logged, there⟩ := of_decide_eq_true facts
  obtain ⟨notif, present⟩ := Option.isSome_iff_exists.1 there
  have start : (signalling sampleHal 0).Initial (sampleMachine, []) :=
    ⟨sampleMachine_boots, rfl⟩
  have run : (signalling sampleHal 0).Reaches (fun _ _ => true = true)
      (sampleMachine, []) (machine, log) :=
    (TransitionSystem.Reaches.refl _).runWhile
      (fun _ _ _ taken => TransitionSystem.step_of_nextRecorded (fun _ _ _ => id) taken) reached
  obtain ⟨accounts, _⟩ := no_signal_lost sampleHal 0
    ⟨_, start, run.mono fun _ _ _ => trivial⟩
  exact ⟨machine, log, notif, logged, present, accounts notif present⟩

end Machine

end Simurgh
