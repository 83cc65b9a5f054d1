import Simurgh.Core.Memory
import Simurgh.Sched.Charge

/-!
# Queues and counters stay in their arrays

The queues of endpoints and notifications are lists here and arrays in the source.
No run makes them longer than the arrays, nor a run time larger than a word.
-/

namespace Simurgh

namespace KernelState

/-- Every queue is within its array. -/
structure QueuesFit (state : KernelState) : Prop where
  endpoints : ∀ eid endpoint, state.endpoints.get? eid = some endpoint → endpoint.Fits
  notifications : ∀ nid notification, state.notifications.get? nid = some notification →
    notification.Fits

/-- Queues, counts and run times are within their types. -/
structure Bounded (state : KernelState) : Prop where
  queues : state.QueuesFit
  sched : state.sched.Fits
  spaces : ∀ asId space, state.addrSpaces.get? asId = some space → space.Counted

variable {caller : ThreadId} {nowNs : Nat} {state before after : KernelState}

theorem QueuesFit.of_same (fit : before.QueuesFit)
    (endpoints : after.endpoints = before.endpoints)
    (notifications : after.notifications = before.notifications) : after.QueuesFit where
  endpoints := endpoints ▸ fit.endpoints
  notifications := notifications ▸ fit.notifications

theorem QueuesFit.updateTcb (fit : state.QueuesFit) (id : ThreadId) (update : Tcb → Tcb) :
    (state.updateTcb id update).QueuesFit :=
  fit.of_same (by rw [updateTcb_frame]) (by rw [updateTcb_frame])

theorem QueuesFit.putEndpoint (fit : state.QueuesFit) {eid : EndpointId}
    {endpoint : KEndpoint} (fits : endpoint.Fits) :
    (state.putEndpoint eid endpoint).QueuesFit where
  endpoints := by
    intro other there present
    change (state.endpoints.put eid endpoint).get? other = some there at present
    rw [Slab.get?_put] at present
    by_cases here : eid = other ∧ other < maxEndpoints
    · rw [if_pos here, Option.some.injEq] at present
      exact present ▸ fits
    · rw [if_neg here] at present
      exact fit.endpoints other there present
  notifications := fit.notifications

theorem QueuesFit.putNotification (fit : state.QueuesFit) {nid : NotificationId}
    {notification : KNotification} (fits : notification.Fits) :
    (state.putNotification nid notification).QueuesFit where
  endpoints := fit.endpoints
  notifications := by
    intro other there present
    change (state.notifications.put nid notification).get? other = some there at present
    rw [Slab.get?_put] at present
    by_cases here : nid = other ∧ other < maxNotifications
    · rw [if_pos here, Option.some.injEq] at present
      exact present ▸ fits
    · rw [if_neg here] at present
      exact fit.notifications other there present

/-! ## Programs on queues -/

theorem onEndpoint_queues {α : Type} {eid : EndpointId}
    {program : Exec KEndpoint EndpointError α} (fits : program.Preserves Endpoint.Fits) :
    (onEndpoint eid program).Preserves QueuesFit := by
  intro state final fit ended
  unfold onEndpoint onObject at ended
  rw [Exec.get_bind_run] at ended
  cases present : state.endpoints.get? eid with
  | none =>
      simp only [present, Exec.okOr_none, Exec.throw_bind_run, Outcome.state?_err,
        Option.some.injEq] at ended
      exact ended ▸ fit
  | some endpoint =>
      simp only [present, Exec.okOr_some, Exec.pure_bind_run] at ended
      obtain ⟨later, ran, rfl⟩ := Exec.zoom_state.1 ended
      exact fit.putEndpoint (fits endpoint later (fit.endpoints eid endpoint present) ran)

theorem onNotification_queues {α : Type} {nid : NotificationId}
    {program : Exec KNotification NotificationError α}
    (fits : program.Preserves Notification.Fits) :
    (onNotification nid program).Preserves QueuesFit := by
  intro state final fit ended
  unfold onNotification onObject at ended
  rw [Exec.get_bind_run] at ended
  cases present : state.notifications.get? nid with
  | none =>
      simp only [present, Exec.okOr_none, Exec.throw_bind_run, Outcome.state?_err,
        Option.some.injEq] at ended
      exact ended ▸ fit
  | some notification =>
      simp only [present, Exec.okOr_some, Exec.pure_bind_run] at ended
      obtain ⟨later, ran, rfl⟩ := Exec.zoom_state.1 ended
      exact fit.putNotification
        (fits notification later (fit.notifications nid notification present) ran)

theorem onSched_queues {α : Type} (program : Exec KScheduler SchedError α) :
    (onSched program).Preserves QueuesFit := by
  intro state final fit ended
  obtain ⟨sched, _, rfl⟩ := Exec.zoom_state.1 ended
  exact fit.of_same rfl rfl

theorem updateTcb_queues (id : ThreadId) (update : Tcb → Tcb) :
    (Exec.modify (updateTcb id update) : Exec KernelState SyscallError Unit).Preserves
      QueuesFit :=
  Exec.Preserves.modify fun _ fit => fit.updateTcb id update

/-- The result of a lookup that does not touch the state. -/
private theorem read_queues {α : Type} {program : Exec KernelState SyscallError α}
    (reads : program.Reads) : program.Preserves QueuesFit :=
  reads.preserves QueuesFit

theorem blockCaller_queues (caller : ThreadId) (blocked : ThreadState) :
    (blockCaller caller blocked).Preserves QueuesFit :=
  (updateTcb_queues _ _).bind fun _ => onSched_queues _

theorem deliver_queues (caller : ThreadId) (nowNs : Nat)
    (delivered : Option (ThreadId × SmallMessage)) :
    (deliver caller nowNs delivered).Preserves QueuesFit := by
  cases delivered with
  | none => exact read_queues (.pure ())
  | some delivery => exact (updateTcb_queues _ _).bind fun _ => onSched_queues _

theorem takeDeliveredAt_queues (eid : EndpointId) :
    (takeDeliveredAt eid).Preserves QueuesFit := by
  refine (read_queues .get).bind fun state => ?_
  cases state.endpoints.get? eid with
  | none => exact read_queues (.pure none)
  | some endpoint => exact onEndpoint_queues Endpoint.takeDelivered_fits

theorem doSend_queues (caller : ThreadId) (endpoint : CapId) (msg : SmallMessage)
    (isCall : Bool) (nowNs : Nat) :
    (doSend caller endpoint msg isCall nowNs).Preserves QueuesFit := by
  have reschedule : ∀ next : KernelState → Option ThreadId,
      (do
        let state ← Exec.get
        return .reschedule (next state) :
        Exec KernelState SyscallError SyscallReturn).Preserves QueuesFit :=
    fun next => read_queues (Exec.Reads.get.bind fun state => .pure _)
  refine (read_queues .get).bind fun state => ?_
  refine (read_queues (.ofExcept _)).bind fun epCap => ?_
  refine (onEndpoint_queues (Endpoint.trySend_fits caller msg true)).bind fun outcome => ?_
  cases outcome with
  | deliveredTo receiver =>
      refine (takeDeliveredAt_queues _).bind fun delivered => ?_
      refine (deliver_queues caller nowNs delivered).bind fun _ => ?_
      cases isCall with
      | true => exact (blockCaller_queues caller _).bind fun _ => reschedule _
      | false => exact read_queues (.pure _)
  | senderQueued => exact (blockCaller_queues caller _).bind fun _ => reschedule _
  | wouldBlock => exact read_queues (.pure _)

theorem doRecv_queues (caller : ThreadId) (endpoint : CapId) (nowNs : Nat) :
    (doRecv caller endpoint nowNs).Preserves QueuesFit := by
  refine (read_queues .get).bind fun state => ?_
  refine (read_queues (.ofExcept _)).bind fun epCap => ?_
  refine (onEndpoint_queues (Endpoint.tryRecv_fits caller true)).bind fun outcome => ?_
  cases outcome with
  | received sender msg =>
      refine (updateTcb_queues _ _).bind fun _ => ?_
      exact (onSched_queues _).attempt.bind fun _ => read_queues (.pure _)
  | receiverQueued =>
      refine (blockCaller_queues caller _).bind fun _ => ?_
      exact read_queues (Exec.Reads.get.bind fun state => .pure _)
  | wouldBlock => exact read_queues (.pure _)

theorem doWait_queues (caller : ThreadId) (notification : CapId) (nowNs : Nat) :
    (doWait caller notification nowNs).Preserves QueuesFit := by
  refine (read_queues .get).bind fun state => ?_
  refine (read_queues (.ofExcept _)).bind fun cap => ?_
  refine (onNotification_queues Notification.poll_fits).bind fun bits => ?_
  by_cases pending : bits ≠ 0
  · rw [if_pos pending]
    exact read_queues (.pure _)
  · rw [if_neg pending]
    refine (onNotification_queues (Notification.wait_fits caller)).bind fun _ => ?_
    refine (Exec.Preserves.modify fun _ fit => fit.of_same rfl rfl).bind fun _ => ?_
    exact (onSched_queues _).attempt.bind fun _ => read_queues (.pure _)

end KernelState

/-- The call can put its caller into a queue. -/
def SyscallOp.waits : SyscallOp → Bool
  | .send _ _ => true
  | .recv _ => true
  | .call _ _ => true
  | .wait _ => true
  | _ => false

namespace KernelState

variable {caller : ThreadId} {nowNs : Nat} {before after : KernelState}
variable {op : SyscallOp} {next : Option ThreadId}

/-! ## Effects -/

/-- What does not wait makes no queue longer. -/
theorem Effect.queues (effect : Effect caller nowNs before op next after)
    (notWaits : op.waits = false) (fit : before.QueuesFit) : after.QueuesFit := by
  cases effect with
  | unchanged => exact fit
  | yielded => exact fit.of_same rfl rfl
  | revoked holds ran => exact fit.of_same rfl rfl
  | granted target found source ne ran => exact fit.of_same rfl rfl
  | retyped holds present reserved created newPages =>
      constructor
      · intro eid endpoint there
        rcases created.endpoints eid with kept | ⟨_, object, made, isNew⟩
        · exact fit.endpoints eid endpoint (kept.symm.trans there)
        · rw [made, Option.some.injEq] at there
          rw [← there, isNew]
          exact Endpoint.fits_new
      · intro nid notification there
        rcases created.notifications nid with kept | ⟨_, object, made, isNew⟩
        · exact fit.notifications nid notification (kept.symm.trans there)
        · rw [made, Option.some.injEq] at there
          rw [← there, isNew]
          exact Nat.zero_le notifWaiters
  | mapped holds frameHeld allowed resolved present added used => exact fit.of_same rfl rfl
  | rolledBack holds frameHeld allowed resolved present added removed =>
      exact fit.of_same rfl rfl
  | sent => simp [SyscallOp.waits] at notWaits
  | called => simp [SyscallOp.waits] at notWaits
  | callStuck => simp [SyscallOp.waits] at notWaits
  | @queued _ _ _ _ _ _ _ isCall _ isSend =>
      cases isCall with
      | false => simp [isSend, SyscallOp.waits] at notWaits
      | true => simp [isSend, SyscallOp.waits] at notWaits
  | received => simp [SyscallOp.waits] at notWaits
  | awaiting => simp [SyscallOp.waits] at notWaits
  | replied ne awaits admitted chosen =>
      exact (fit.updateTcb _ _).of_same rfl rfl
  | replyStuck ne awaits absent => exact fit.updateTcb _ _
  | signalled holds present =>
      refine QueuesFit.of_same (fit.putNotification ?_) rfl rfl
      exact Nat.zero_le notifWaiters
  | waiting => simp [SyscallOp.waits] at notWaits
  | taken isRead holds present =>
      have before := fit.notifications _ _ present
      exact fit.putNotification before
  | bound region found target =>
      rw [bindIrq_frame]
      exact fit.of_same rfl rfl

/-- No call makes a run time larger than a word. -/
theorem Effect.sched_fits (effect : Effect caller nowNs before op next after)
    (fits : before.sched.Fits) : after.sched.Fits := by
  have updated : ∀ (state : KernelState) (id : ThreadId) (update : Tcb → Tcb),
      (state.updateTcb id update).sched = state.sched := fun state id update =>
    sched_updateTcb id update state
  cases effect with
  | unchanged => exact fits
  | yielded => exact fits.account nowNs
  | revoked holds ran => exact fits
  | granted target found source ne ran => exact fits
  | retyped holds present reserved created newPages =>
      have same : after.sched = before.sched := by
        rw [created.frame]
        rfl
      exact same ▸ fits
  | mapped holds frameHeld allowed resolved present added used => exact fits
  | rolledBack holds frameHeld allowed resolved present added removed => exact fits
  | sent holds present waiting => exact fits.setReady _ nowNs
  | called holds present waiting admitted final chosen =>
      rw [final]
      exact (fits.setReady _ nowNs).setBlocked caller
  | callStuck holds present waiting absent => exact fits.setReady _ nowNs
  | queued isSend holds present noReceiver final chosen =>
      rw [final]
      exact Scheduler.Fits.setBlocked fits caller
  | received holds present waiting => exact Scheduler.Fits.setReady fits _ nowNs
  | awaiting holds present noSender final chosen =>
      rw [final]
      exact Scheduler.Fits.setBlocked fits caller
  | replied ne awaits admitted chosen =>
      exact (fits.setReady _ nowNs).setReady caller nowNs
  | replyStuck ne awaits absent =>
      rw [storeReply, sched_updateTcb]
      exact fits
  | signalled holds present => exact fits.setAllReady nowNs _
  | waiting holds present => exact (fits.account nowNs).setBlocked caller
  | taken isRead holds present => exact fits
  | bound region found target =>
      rw [bindIrq_frame]
      exact fits

/-- Every address space goes on counting its mappings. -/
theorem Effect.spaces_counted (effect : Effect caller nowNs before op next after)
    (counted : ∀ asId space, before.addrSpaces.get? asId = some space → space.Counted)
    (asId : PageTableId) (space : RootAddressSpace)
    (present : after.addrSpaces.get? asId = some space) : space.Counted := by
  have stored : ∀ {id : PageTableId} {new : RootAddressSpace}, new.Counted →
      (before.addrSpaces.put id new).get? asId = some space → space.Counted := by
    intro id new newCounted there
    rw [Slab.get?_put] at there
    by_cases here : id = asId ∧ asId < maxAddrSpaces
    · rw [if_pos here, Option.some.injEq] at there
      exact there ▸ newCounted
    · rw [if_neg here] at there
      exact counted asId space there
  by_cases isMap : ∃ pageTable frame vaddr perms, op = .map pageTable frame vaddr perms
  · cases effect with
    | unchanged => exact counted asId space present
    | mapped holds frameHeld allowed resolved there added used =>
        exact stored ((AddressSpace.map_ok added).counted (counted _ _ there)) present
    | rolledBack holds frameHeld allowed resolved there added removed =>
        have grown := (AddressSpace.map_ok added).counted (counted _ _ there)
        exact stored (AddressSpace.unmap_counted grown removed) present
    | @queued _ _ _ _ _ _ _ isCall _ isSend =>
        obtain ⟨_, _, _, _, isMap⟩ := isMap
        cases isCall with
        | false => simp [isSend] at isMap
        | true => simp [isSend] at isMap
    | taken isRead =>
        obtain ⟨_, _, _, _, isMap⟩ := isMap
        simp [isMap] at isRead
    | _ => simp at isMap
  · by_cases isRetype : ∃ untyped targetType count, op = .retype untyped targetType count
    · obtain ⟨untyped, targetType, count, rfl⟩ := isRetype
      rcases effect.retype_cases with
        ⟨_, rfl⟩ | ⟨csId, uid, region, grant, later, _, _, _, _, created, _⟩
      · exact counted asId space present
      · rcases created.addrSpaces asId with kept | ⟨_, object, made, _, root, _, isNew⟩
        · exact counted asId space (kept.symm.trans present)
        · rw [made, Option.some.injEq] at present
          rw [← present, isNew]
          exact AddressSpace.counted_new root
    · have same := effect.sameMemory
        (fun _ _ _ isOp => isRetype ⟨_, _, _, isOp⟩) fun _ _ _ _ isOp => isMap ⟨_, _, _, _, isOp⟩
      exact counted asId space (same.addrSpaces ▸ present)

end KernelState

/-! ## Runs -/

namespace Machine

variable {μ : Type} (hal : HalInterface μ)

/-- A syscall keeps the queues in their arrays, also one that waits. -/
theorem dispatch_queues {caller : ThreadId} {nowNs : Nat} {op : SyscallOp}
    {before after : Machine μ} (fit : before.kernel.QueuesFit)
    (ended : (dispatch hal caller nowNs op before).state? = some after) :
    after.kernel.QueuesFit := by
  have program : ∀ {call : Exec KernelState SyscallError SyscallReturn},
      call.Preserves KernelState.QueuesFit →
      (onKernel call before).state? = some after → after.kernel.QueuesFit := by
    intro call preserves ran
    obtain ⟨kernel, inner, rfl⟩ := Exec.zoom_state.1 ran
    exact preserves before.kernel kernel fit inner
  cases waits : op.waits with
  | false =>
      obtain ⟨next, effect⟩ := dispatch_effect hal ended
      exact effect.queues waits fit
  | true =>
      cases op with
      | send endpoint msg =>
          exact program (KernelState.doSend_queues caller endpoint msg false nowNs) ended
      | recv endpoint => exact program (KernelState.doRecv_queues caller endpoint nowNs) ended
      | call endpoint msg =>
          exact program (KernelState.doSend_queues caller endpoint msg true nowNs) ended
      | wait notification =>
          exact program (KernelState.doWait_queues caller notification nowNs) ended
      | _ => simp [SyscallOp.waits] at waits

theorem Boots.bounded {machine : Machine μ} (boots : machine.Boots) :
    machine.kernel.Bounded := by
  obtain ⟨kernel, fromBoot, same⟩ := boots
  have booted := fromBoot.booted
  obtain ⟨rootTid, scheduled⟩ := booted.scheduled
  have bounded : kernel.Bounded := by
    refine ⟨⟨?_, ?_⟩, ?_, ?_⟩
    · intro eid endpoint present
      simp [booted.endpoints] at present
    · intro nid notification present
      simp [booted.notifications] at present
    · rw [scheduled]
      refine Scheduler.Fits.setReady (Scheduler.Fits.setAdmitted ?_ _ _ _ _) _ _
      intro thread entity present
      simp [Scheduler.entity, Scheduler.new] at present
    · intro asId space present
      obtain ⟨root, rfl⟩ := booted.unmapped asId space present
      exact AddressSpace.counted_new root
  rcases same with rfl | ⟨base, len, installed⟩
  · exact bounded
  · rw [installed]
    exact ⟨bounded.queues.of_same rfl rfl, bounded.sched, bounded.spaces⟩

/-- What is no syscall leaves the queues alone. -/
theorem moves_queues {event : KernelEvent} {before after : KernelState}
    (moves : Moves before event after) (notSyscall : event.isSyscall = false)
    (fit : before.QueuesFit) : after.QueuesFit := by
  cases moves with
  | ticked chosen => exact fit.of_same rfl rfl
  | called effect => simp [KernelEvent.isSyscall] at notSyscall
  | started isStart => exact (fit.updateTcb _ _).of_same rfl rfl
  | killed isKill chosen => exact (fit.updateTcb _ _).of_same rfl rfl
  | spawned isSpawn spawns =>
      exact fit.of_same (by rw [spawns.frame]) (by rw [spawns.frame])
  | grantedInto chosen => exact fit.of_same rfl rfl

/-- Every event keeps queues and run times within their types. -/
theorem step_bounded {event : KernelEvent} {before after : Machine μ}
    (bounded : before.kernel.Bounded) (taken : (system hal).Step before event after) :
    after.kernel.Bounded := by
  have moves := step_moves hal taken
  have queues : after.kernel.QueuesFit := by
    cases event with
    | syscall caller op nowNs =>
        change (perform hal (.syscall caller op nowNs) before).state? = some after at taken
        rcases Exec.bind_state.1 taken with ⟨error, failed⟩ | ⟨result, middle, ran, rest⟩
        · exact dispatch_queues hal bounded.queues (by rw [failed]; rfl)
        · have reached : (dispatch hal caller nowNs op before).state? = some middle := by
            rw [ran]
            rfl
          have fit := dispatch_queues hal bounded.queues reached
          have ended := (onKernel_state rest).1
          rw [commit_run] at ended
          rw [← Option.some.inj ended]
          cases result.next with
          | none => exact fit
          | some next => exact fit.of_same rfl rfl
    | tick => exact moves_queues moves rfl bounded.queues
    | initUserThread => exact moves_queues moves rfl bounded.queues
    | startThread => exact moves_queues moves rfl bounded.queues
    | terminate => exact moves_queues moves rfl bounded.queues
    | terminateAndHandoff => exact moves_queues moves rfl bounded.queues
    | carve => exact moves_queues moves rfl bounded.queues
    | spawn => exact moves_queues moves rfl bounded.queues
    | grantCapInto => exact moves_queues moves rfl bounded.queues
  have fits := bounded.sched
  suffices after.kernel.sched.Fits ∧ ∀ asId space,
      after.kernel.addrSpaces.get? asId = some space → space.Counted from
    ⟨queues, this.1, this.2⟩
  generalize after.kernel = final at moves
  cases moves with
  | ticked chosen =>
      refine ⟨?_, bounded.spaces⟩
      rcases chosen with rfl | ⟨next, _, rfl⟩ | ⟨outgoing, _, rfl⟩
      · exact fits.account _
      · exact (fits.account _).setRunning next _
      · exact ((fits.account _).setReady outgoing _).setRunning outgoing _
  | @called caller op nowNs next kernel effect =>
      have later := effect.sched_fits fits
      have counted := effect.spaces_counted bounded.spaces
      cases next with
      | none => exact ⟨later, counted⟩
      | some next => exact ⟨later.setRunning next nowNs, counted⟩
  | started isStart =>
      refine ⟨(fits.setAdmitted _ _ _ _).setReady _ _, ?_⟩
      rw [KernelState.updateTcb_frame]
      exact bounded.spaces
  | @killed event tid nowNs sched isKill chosen =>
      have without : (KernelState.schedWithout tid nowNs before.kernel.sched).Fits := by
        unfold KernelState.schedWithout
        split
        · exact (fits.account nowNs).remove tid
        · exact fits.remove tid
      refine ⟨?_, by rw [KernelState.exited, KernelState.updateTcb_frame]; exact bounded.spaces⟩
      rcases chosen with rfl | ⟨next, rfl⟩
      · exact without
      · exact without.setRunning next nowNs
  | spawned isSpawn spawns =>
      refine ⟨?_, fun asId space present => ?_⟩
      · rw [spawns.frame]
        exact fits
      · rcases spawns.addrSpaces.cases_of_some present with old | ⟨_, root, rfl⟩
        · exact bounded.spaces asId space old
        · exact AddressSpace.counted_new root
  | grantedInto chosen => exact ⟨fits, bounded.spaces⟩

theorem bounded_of_reachable {admits : Machine μ → KernelEvent → Prop} {machine : Machine μ}
    (reachable : (system hal).Reachable admits machine) : machine.kernel.Bounded :=
  reachable.invariant (fun _ boots => boots.bounded)
    fun _ _ _ _ bounded taken => step_bounded hal bounded taken

end Machine

end Simurgh
