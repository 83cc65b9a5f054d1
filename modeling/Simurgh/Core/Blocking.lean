import Simurgh.Core.Threads

/-!
# Blocked threads and the scheduler

Whether a thread can run is recorded twice, in its control block and in its
scheduling entity.  `Coherent` says that the two copies agree where it matters: a
thread that waits for a partner is not schedulable.
-/

namespace Simurgh

/-- The thread waits in `Send`, `Recv` or `Call`. -/
def ThreadState.awaitsIpc : ThreadState → Bool
  | .blockedOnSend => true
  | .blockedOnRecv => true
  | .blockedOnReply => true
  | _ => false

/-- The entity of the thread is `Ready` or `Running`. -/
def Scheduler.Schedulable {NT NCG : Nat} (sched : Scheduler NT NCG) (tid : ThreadId) :
    Prop :=
  sched.runState tid = some .ready ∨ sched.runState tid = some .running

/-! ## Threads that sleep -/

/-- Threads that wait are not schedulable, and the running thread is. -/
structure Asleep (waits : ThreadId → Prop) (sched : KScheduler) : Prop where
  waiting : ∀ tid, waits tid → ¬ sched.Schedulable tid
  running : ∀ tid, sched.running = some tid → sched.Schedulable tid
  threadsMatch : sched.ThreadsMatch

namespace Asleep

variable {waits later : ThreadId → Prop} {sched : KScheduler}

/-- A schedulable thread does not wait. -/
theorem awake (asleep : Asleep waits sched) {tid : ThreadId}
    (schedulable : sched.Schedulable tid) : ¬ waits tid :=
  fun waiting => asleep.waiting tid waiting schedulable

/-- No further thread waits. -/
theorem of_waits (asleep : Asleep waits sched) (same : ∀ tid, later tid → waits tid) :
    Asleep later sched where
  waiting := fun tid waiting => asleep.waiting tid (same tid waiting)
  running := asleep.running
  threadsMatch := asleep.threadsMatch

theorem setReady (asleep : Asleep waits sched) (tid : ThreadId) (nowNs : Nat)
    (others : ∀ other, later other → waits other ∧ other ≠ tid) :
    Asleep later (sched.setReady tid nowNs) where
  waiting := by
    intro other waiting
    obtain ⟨before, ne⟩ := others other waiting
    unfold Scheduler.Schedulable
    rw [Scheduler.runState_setReady, if_neg ne]
    exact asleep.waiting other before
  running := by
    intro other runs
    rw [Scheduler.running_setReady] at runs
    unfold Scheduler.Schedulable
    rw [Scheduler.runState_setReady]
    by_cases same : other = tid
    · rw [if_pos same]
      rcases asleep.running other runs with ready | running
      · exact Or.inl (by rw [ready]; rfl)
      · exact Or.inl (by rw [running]; rfl)
    · rw [if_neg same]
      exact asleep.running other runs
  threadsMatch := asleep.threadsMatch.setReady tid nowNs

theorem setAllReady (asleep : Asleep waits sched) (nowNs : Nat) (woken : List ThreadId)
    (wakes : ∀ tid ∈ woken, ¬ waits tid) :
    Asleep waits (sched.setAllReady nowNs woken) := by
  induction woken generalizing sched with
  | nil => exact asleep
  | cons tid rest ih =>
      have notWaiting : ¬ waits tid := wakes tid (List.mem_cons_self ..)
      have first := asleep.setReady tid nowNs
        fun other waiting => ⟨waiting, fun same => notWaiting (same ▸ waiting)⟩
      exact ih first
        fun other member => wakes other (List.mem_cons_of_mem _ member)

theorem setBlocked (asleep : Asleep waits sched) (tid : ThreadId)
    (others : ∀ other, other ≠ tid → later other → waits other) :
    Asleep later (sched.setBlocked tid) where
  waiting := by
    intro other waiting
    unfold Scheduler.Schedulable
    rw [Scheduler.runState_setBlocked]
    by_cases same : other = tid
    · rw [if_pos same]
      cases sched.runState other with
      | none => simp
      | some run => simp
    · rw [if_neg same]
      exact asleep.waiting other (others other same waiting)
  running := by
    intro other runs
    obtain ⟨before, absent⟩ := Scheduler.running_setBlocked runs
    have schedulable := asleep.running other before
    unfold Scheduler.Schedulable
    rw [Scheduler.runState_setBlocked]
    by_cases same : other = tid
    · subst same
      unfold Scheduler.Schedulable Scheduler.runState at schedulable
      rw [absent rfl] at schedulable
      simp at schedulable
    · rw [if_neg same]
      exact schedulable
  threadsMatch := asleep.threadsMatch.setBlocked tid

theorem account (asleep : Asleep waits sched) (nowNs : Nat) :
    Asleep waits (sched.account nowNs) where
  waiting := by
    intro tid waiting
    have before := asleep.waiting tid waiting
    unfold Scheduler.Schedulable at *
    rcases Scheduler.runState_account nowNs sched tid with same | ⟨running, _⟩
    · rwa [same]
    · exact absurd (Or.inr running) before
  running := by simp
  threadsMatch := asleep.threadsMatch.account nowNs

theorem setRunning (asleep : Asleep waits sched) (tid : ThreadId) (nowNs : Nat)
    (awake : ¬ waits tid) : Asleep waits (sched.setRunning tid nowNs) where
  waiting := by
    intro other waiting
    have ne : other ≠ tid := fun same => awake (same ▸ waiting)
    unfold Scheduler.Schedulable
    rw [Scheduler.runState_setRunning, if_neg ne]
    exact asleep.waiting other waiting
  running := by
    intro other runs
    unfold Scheduler.Schedulable
    rw [Scheduler.runState_setRunning]
    by_cases same : other = tid
    · rw [if_pos same]
      rcases Scheduler.running_setRunning runs with before | ⟨_, admitted⟩
      · rcases asleep.running other before with ready | running
        · exact Or.inr (by rw [ready]; rfl)
        · exact Or.inr (by rw [running]; rfl)
      · obtain ⟨entity, present⟩ := Option.isSome_iff_exists.1 admitted
        exact Or.inr (by rw [Scheduler.runState, same, present]; rfl)
    · rw [if_neg same]
      rcases Scheduler.running_setRunning runs with before | ⟨same', _⟩
      · exact asleep.running other before
      · exact absurd same' same
  threadsMatch := asleep.threadsMatch.setRunning tid nowNs

/-- The thread that `pickNext` returns is schedulable, so it does not wait. -/
theorem pickNext_awake (asleep : Asleep waits sched) {tid : ThreadId}
    (picked : sched.pickNext = some tid) : ¬ waits tid :=
  asleep.awake (Or.inl (Scheduler.runState_of_pickNext asleep.threadsMatch picked))

theorem setAdmitted (asleep : Asleep waits sched) {tid : ThreadId}
    (inside : tid < maxThreads) (priority nowNs : Nat)
    (others : ∀ other, later other → waits other ∧ other ≠ tid) :
    Asleep later
      ((sched.setAdmitted tid .interactive priority none).setReady tid nowNs) where
  waiting := by
    intro other waiting
    obtain ⟨before, ne⟩ := others other waiting
    unfold Scheduler.Schedulable
    rw [Scheduler.runState_setReady, if_neg ne, Scheduler.runState_setAdmitted inside,
      if_neg ne]
    exact asleep.waiting other before
  running := by
    intro other runs
    rw [Scheduler.running_setReady] at runs
    unfold Scheduler.Schedulable
    rw [Scheduler.runState_setReady, Scheduler.runState_setAdmitted inside]
    by_cases same : other = tid
    · rw [if_pos same, if_pos same]
      exact Or.inl rfl
    · rw [if_neg same, if_neg same]
      exact asleep.running other runs
  threadsMatch :=
    (asleep.threadsMatch.setAdmitted inside .interactive priority none).setReady tid nowNs

theorem remove (asleep : Asleep waits sched) (tid : ThreadId) :
    Asleep waits (sched.remove tid) where
  waiting := by
    intro other waiting
    unfold Scheduler.Schedulable
    rw [Scheduler.runState_remove]
    by_cases same : other = tid
    · simp [same]
    · rw [if_neg same]
      exact asleep.waiting other waiting
  running := by
    intro other runs
    obtain ⟨before, ne⟩ := Scheduler.running_remove runs
    unfold Scheduler.Schedulable
    rw [Scheduler.runState_remove, if_neg ne]
    exact asleep.running other before
  threadsMatch := asleep.threadsMatch.remove tid

end Asleep

/-! ## The two copies -/

/-- Threads that wait for a partner are not schedulable, and the running thread is. -/
structure Coherent (threads : ThreadId → Option ThreadState) (sched : KScheduler) :
    Prop where
  waiting : ∀ tid state, threads tid = some state → state.awaitsIpc = true →
    ¬ sched.Schedulable tid
  running : ∀ tid, sched.running = some tid → sched.Schedulable tid
  threadsMatch : sched.ThreadsMatch

/-- The control block of the thread says that it waits for a partner. -/
def AwaitsIn (threads : ThreadId → Option ThreadState) (tid : ThreadId) : Prop :=
  ∃ state, threads tid = some state ∧ state.awaitsIpc = true

theorem not_awaitsIn_iff {threads : ThreadId → Option ThreadState} {tid : ThreadId} :
    ¬ AwaitsIn threads tid ↔ ∀ state, threads tid = some state → state.awaitsIpc = false := by
  simp [AwaitsIn]

namespace Coherent

variable {threads later : ThreadId → Option ThreadState} {sched : KScheduler}

theorem iff_asleep : Coherent threads sched ↔ Asleep (AwaitsIn threads) sched := by
  constructor
  · intro coherent
    exact ⟨fun tid ⟨state, present, waits⟩ => coherent.waiting tid state present waits,
      coherent.running, coherent.threadsMatch⟩
  · intro asleep
    exact ⟨fun tid state present waits => asleep.waiting tid ⟨state, present, waits⟩,
      asleep.running, asleep.threadsMatch⟩

/-- A schedulable thread does not wait. -/
theorem awake (coherent : Coherent threads sched) {tid : ThreadId}
    (schedulable : sched.Schedulable tid) {state : ThreadState}
    (present : threads tid = some state) : state.awaitsIpc = false :=
  not_awaitsIn_iff.1 ((iff_asleep.1 coherent).awake schedulable) state present

/-- No further thread waits. -/
theorem of_threads (coherent : Coherent threads sched)
    (same : ∀ tid state, later tid = some state → state.awaitsIpc = true →
      threads tid = some state) : Coherent later sched := by
  refine iff_asleep.2 ((iff_asleep.1 coherent).of_waits ?_)
  intro tid ⟨state, present, waits⟩
  exact ⟨state, same tid state present waits, waits⟩

/-- Where one thread has changed, and does not wait, the others wait as before. -/
private theorem others_await {tid : ThreadId}
    (others : ∀ other, other ≠ tid → later other = threads other)
    (wakes : ∀ state, later tid = some state → state.awaitsIpc = false) :
    ∀ other, AwaitsIn later other → AwaitsIn threads other ∧ other ≠ tid := by
  intro other waiting
  have ne : other ≠ tid := by
    rintro rfl
    exact not_awaitsIn_iff.2 wakes waiting
  unfold AwaitsIn at *
  rw [others other ne] at waiting
  exact ⟨waiting, ne⟩

theorem setReady (coherent : Coherent threads sched) (tid : ThreadId) (nowNs : Nat)
    (others : ∀ other, other ≠ tid → later other = threads other)
    (wakes : ∀ state, later tid = some state → state.awaitsIpc = false) :
    Coherent later (sched.setReady tid nowNs) :=
  iff_asleep.2 ((iff_asleep.1 coherent).setReady tid nowNs (others_await others wakes))

theorem setAllReady (coherent : Coherent threads sched) (nowNs : Nat)
    (woken : List ThreadId)
    (wakes : ∀ tid ∈ woken, ∀ state, threads tid = some state → state.awaitsIpc = false) :
    Coherent threads (sched.setAllReady nowNs woken) := by
  refine iff_asleep.2 ((iff_asleep.1 coherent).setAllReady nowNs woken ?_)
  intro tid member
  exact not_awaitsIn_iff.2 (wakes tid member)

theorem setBlocked (coherent : Coherent threads sched) (tid : ThreadId)
    (others : ∀ other, other ≠ tid → later other = threads other) :
    Coherent later (sched.setBlocked tid) := by
  refine iff_asleep.2 ((iff_asleep.1 coherent).setBlocked tid ?_)
  intro other ne waiting
  unfold AwaitsIn at *
  rwa [others other ne] at waiting

theorem account (coherent : Coherent threads sched) (nowNs : Nat) :
    Coherent threads (sched.account nowNs) :=
  iff_asleep.2 ((iff_asleep.1 coherent).account nowNs)

theorem setRunning (coherent : Coherent threads sched) (tid : ThreadId) (nowNs : Nat)
    (wakes : ∀ state, threads tid = some state → state.awaitsIpc = false) :
    Coherent threads (sched.setRunning tid nowNs) :=
  iff_asleep.2 ((iff_asleep.1 coherent).setRunning tid nowNs (not_awaitsIn_iff.2 wakes))

/-- The thread that `pickNext` returns is schedulable, so it does not wait. -/
theorem pickNext_awake (coherent : Coherent threads sched) {tid : ThreadId}
    (picked : sched.pickNext = some tid) {state : ThreadState}
    (present : threads tid = some state) : state.awaitsIpc = false :=
  not_awaitsIn_iff.1 ((iff_asleep.1 coherent).pickNext_awake picked) state present

theorem setAdmitted (coherent : Coherent threads sched) {tid : ThreadId}
    (inside : tid < maxThreads) (priority nowNs : Nat)
    (others : ∀ other, other ≠ tid → later other = threads other)
    (wakes : ∀ state, later tid = some state → state.awaitsIpc = false) :
    Coherent later
      ((sched.setAdmitted tid .interactive priority none).setReady tid nowNs) :=
  iff_asleep.2 ((iff_asleep.1 coherent).setAdmitted inside priority nowNs
    (others_await others wakes))

end Coherent

namespace KernelState

/-! ## Undisturbed steps -/

/-- Waking the thread is harmless: it waits for nothing but what this call brings. -/
def mayWake (state : KernelState) (caller : ThreadId) : SyscallOp → ThreadId → Bool
  | .call _ _, tid => state.threadState tid != some .blockedOnReply && tid != caller
  | .signal _ _, tid => !(state.threadState tid).any ThreadState.awaitsIpc
  | _, tid => state.threadState tid != some .blockedOnReply

/-- Syscalls come from the running thread.  Only threads that were never started are
started, and none is killed. -/
def scheduled (state : KernelState) : KernelEvent → Bool
  | .tick _ => true
  | .syscall caller _ _ => state.sched.running == some caller
  | .initUserThread tid _ _ => state.threadState tid == some .inactive
  | .startThread tid _ _ => state.threadState tid == some .inactive
  | .terminate _ _ => false
  | .terminateAndHandoff _ _ _ => false
  | .carve _ => true
  | .spawn _ _ => true
  | .grantCapInto _ _ _ _ => true

/-- Every thread that the event wakes may be woken. -/
def undisturbed (state : KernelState) : KernelEvent → Bool
  | .syscall caller op _ => (state.woken caller op).all (state.mayWake caller op)
  | _ => true

section Scheduled

variable {state : KernelState} {event : KernelEvent} {tid : ThreadId}

theorem inactive_of_starts (inOrder : state.scheduled event = true)
    (isStart : event.starts = some tid) : state.threadState tid = some .inactive := by
  cases event with
  | initUserThread other entry nowNs =>
      obtain rfl := Option.some.inj isStart
      exact beq_iff_eq.1 inOrder
  | startThread other entry nowNs =>
      obtain rfl := Option.some.inj isStart
      exact beq_iff_eq.1 inOrder
  | _ => simp [KernelEvent.starts] at isStart

theorem kills_of_scheduled (inOrder : state.scheduled event = true) : event.kills = none := by
  cases event with
  | terminate tid nowNs => cases inOrder
  | terminateAndHandoff tid incoming nowNs => cases inOrder
  | _ => rfl

end Scheduled

/-! ## One step -/

section Step

variable {caller : ThreadId} {nowNs : Nat} {before after : KernelState}
variable {op : SyscallOp} {next : Option ThreadId}

/-- Handing a message over keeps the copies together. -/
theorem handOver_coherent (coherent : Coherent before.threadState before.sched)
    (receiver sender : ThreadId) (msg : SmallMessage) (nowNs : Nat) :
    Coherent (before.handOver receiver sender msg nowNs).threadState
      (before.handOver receiver sender msg nowNs).sched := by
  refine coherent.setReady receiver nowNs (fun other ne => ?_) fun state present => ?_
  · rw [threadState_handOver, if_neg ne]
  · rw [threadState_handOver, if_pos rfl, Option.map_eq_some_iff] at present
    obtain ⟨_, _, rfl⟩ := present
    rfl

theorem putEndpoint_coherent (coherent : Coherent before.threadState before.sched)
    (eid : EndpointId) (ep : KEndpoint) :
    Coherent (before.putEndpoint eid ep).threadState (before.putEndpoint eid ep).sched :=
  coherent

theorem block_coherent (coherent : Coherent before.threadState before.sched)
    (thread : ThreadId) (blocked : ThreadState) :
    Coherent (before.block thread blocked).threadState (before.block thread blocked).sched := by
  refine coherent.setBlocked thread fun other ne => ?_
  rw [threadState_block, if_neg ne]

theorem release_coherent (coherent : Coherent before.threadState before.sched)
    {sender : ThreadId} (freed : before.threadState sender ≠ some .blockedOnReply)
    (nowNs : Nat) :
    Coherent (before.release sender nowNs).threadState (before.release sender nowNs).sched := by
  refine coherent.setReady sender nowNs (fun other ne => ?_) fun state present => ?_
  · rw [threadState_release, if_neg ne]
  · rw [threadState_release, if_pos rfl, Option.map_eq_some_iff] at present
    obtain ⟨old, there, rfl⟩ := present
    have notReply : old ≠ .blockedOnReply := fun same => freed (same ▸ there)
    rw [if_neg notReply]
    rfl

/-- A blocked thread is not the one that a scheduler picks next. -/
private theorem picked_awake (coherent : Coherent after.threadState after.sched)
    (chosen : next = none ∨ next = after.sched.pickNext) :
    ∀ tid, next = some tid → ∀ state, after.threadState tid = some state →
      state.awaitsIpc = false := by
  intro tid same state present
  rcases chosen with rfl | rfl
  · simp at same
  · exact coherent.pickNext_awake same present

/-- A syscall of the running thread that wakes only what it may wake. -/
theorem Effect.coherent (effect : Effect caller nowNs before op next after)
    (coherent : Coherent before.threadState before.sched)
    (runs : before.sched.running = some caller)
    (mayWake : ∀ tid ∈ before.woken caller op, before.mayWake caller op tid = true) :
    Coherent after.threadState after.sched ∧
      ∀ tid, next = some tid → ∀ state, after.threadState tid = some state →
        state.awaitsIpc = false := by
  have callerAwake : ∀ state, before.threadState caller = some state →
      state.awaitsIpc = false :=
    fun state present => coherent.awake (coherent.running caller runs) present
  cases effect with
  | unchanged => exact ⟨coherent, by simp⟩
  | yielded =>
      have accounted := coherent.account nowNs
      exact ⟨accounted, fun tid picked state present =>
        accounted.pickNext_awake picked present⟩
  | revoked holds ran => exact ⟨coherent, by simp⟩
  | granted target found source ne ran => exact ⟨coherent, by simp⟩
  | retyped holds present reserved created newPages =>
      refine ⟨?_, by simp⟩
      have sched : after.sched = before.sched := by
        rw [created.frame]
        rfl
      rw [sched]
      refine coherent.of_threads fun tid state there waits => ?_
      rcases created.threadState tid with same | ⟨_, inactive⟩
      · exact same ▸ there
      · rw [inactive, Option.some.injEq] at there
        rw [← there] at waits
        simp [ThreadState.awaitsIpc] at waits
  | mapped holds frameHeld allowed resolved present added used =>
      exact ⟨coherent, by simp⟩
  | rolledBack holds frameHeld allowed resolved present added removed => exact ⟨coherent, by simp⟩
  | sent holds present waiting =>
      exact ⟨handOver_coherent (putEndpoint_coherent coherent ..) .., by simp⟩
  | @called csId endpoint msg eid ep receiver rest after next holds present waiting
      admitted final chosen =>
      have handed := handOver_coherent (putEndpoint_coherent coherent eid
        { ep with receivers := rest, pendingDelivery := none })
        receiver.thread caller msg nowNs
      have blocked := block_coherent handed caller .blockedOnReply
      rw [← final] at blocked
      refine ⟨blocked, fun tid same state there => ?_⟩
      have notCaller : receiver.thread ≠ caller := by
        have allowed := mayWake _ (holds.receiver_mem_woken present waiting).2
        simp only [KernelState.mayWake, Bool.and_eq_true, bne_iff_ne] at allowed
        exact allowed.2
      rcases chosen with rfl | rfl | rfl
      · simp at same
      · obtain rfl := Option.some.inj same
        rw [final, threadState_block, if_neg notCaller, threadState_handOver, if_pos rfl,
          Option.map_eq_some_iff] at there
        obtain ⟨_, _, rfl⟩ := there
        rfl
      · exact blocked.pickNext_awake same there
  | callStuck holds present waiting absent =>
      exact ⟨handOver_coherent (putEndpoint_coherent coherent ..) .., by simp⟩
  | @queued csId endpoint msg eid ep after next isCall op isSend holds present noReceiver
      final chosen =>
      have blocked : Coherent after.threadState after.sched := by
        rw [final]
        exact block_coherent (putEndpoint_coherent coherent ..) ..
      exact ⟨blocked, picked_awake blocked chosen⟩
  | @received csId endpoint eid ep sender rest holds present waiting =>
      have freed : before.threadState sender.thread ≠ some .blockedOnReply := by
        have allowed := mayWake _ (holds.sender_mem_woken present waiting)
        simpa only [KernelState.mayWake, bne_iff_ne] using allowed
      exact ⟨release_coherent (putEndpoint_coherent coherent ..) freed nowNs, by simp⟩
  | awaiting holds present noSender final chosen =>
      have blocked : Coherent after.threadState after.sched := by
        rw [final]
        exact block_coherent (putEndpoint_coherent coherent ..) ..
      exact ⟨blocked, picked_awake blocked chosen⟩
  | @replied toThread msg next ne awaits admitted chosen =>
      have woken : ∀ state,
          (before.storeReply toThread msg).threadState toThread = some state →
            state.awaitsIpc = false := by
        intro state present
        rw [threadState_storeReply, if_pos rfl, Option.map_eq_some_iff] at present
        obtain ⟨_, _, rfl⟩ := present
        rfl
      have first := coherent.setReady toThread nowNs
        (fun other ne => by
          rw [threadState_storeReply toThread msg, if_neg ne]) woken
      refine ⟨first.setReady caller nowNs (fun _ _ => rfl) fun state present => ?_, ?_⟩
      · change (before.storeReply toThread msg).threadState caller = some state at present
        rw [threadState_storeReply, if_neg ne] at present
        exact callerAwake state present
      · intro tid same state present
        rcases chosen with rfl | rfl
        · simp at same
        · obtain rfl := Option.some.inj same
          exact woken state present
  | @replyStuck toThread msg ne awaits absent =>
      refine ⟨?_, by simp⟩
      rw [storeReply, sched_updateTcb]
      refine coherent.of_threads fun tid state present waits => ?_
      change (before.storeReply toThread msg).threadState tid = some state at present
      rw [threadState_storeReply] at present
      by_cases same : tid = toThread
      · rw [if_pos same, Option.map_eq_some_iff] at present
        obtain ⟨_, _, rfl⟩ := present
        simp [ThreadState.awaitsIpc] at waits
      · rwa [if_neg same] at present
  | @signalled csId notification bits nid notif holds present =>
      refine ⟨coherent.setAllReady nowNs notif.waiters fun tid member => ?_, by simp⟩
      rw [holds.waiters_woken present] at mayWake
      have allowed := mayWake tid member
      intro state there
      simpa [KernelState.mayWake, there] using allowed
  | waiting holds present =>
      exact ⟨(coherent.account nowNs).setBlocked caller fun _ _ => rfl, by simp⟩
  | taken isRead holds present => exact ⟨coherent, by simp⟩
  | bound region found target =>
      refine ⟨?_, by simp⟩
      rw [bindIrq_frame]
      exact coherent

/-- A thread in `Call` leaves that state only by a reply that names it. -/
theorem Effect.awaits_reply (effect : Effect caller nowNs before op next after)
    (coherent : Coherent before.threadState before.sched)
    (runs : before.sched.running = some caller)
    (mayWake : ∀ tid ∈ before.woken caller op, before.mayWake caller op tid = true)
    {tid : ThreadId} (awaits : before.threadState tid = some .blockedOnReply)
    (unanswered : ∀ msg, op ≠ .reply tid msg) :
    after.threadState tid = some .blockedOnReply := by
  have notCaller : tid ≠ caller := by
    rintro rfl
    have awake := coherent.awake (coherent.running tid runs) awaits
    simp [ThreadState.awaitsIpc] at awake
  cases effect with
  | unchanged => exact awaits
  | yielded => exact awaits
  | revoked holds ran => exact awaits
  | granted target found source ne ran => exact awaits
  | retyped holds present reserved created newPages =>
      rcases created.threadState tid with same | ⟨vacant, _⟩
      · exact same.trans awaits
      · exact absurd (vacant.symm.trans awaits) (by simp)
  | mapped holds frameHeld allowed resolved present added used => exact awaits
  | rolledBack holds frameHeld allowed resolved present added removed => exact awaits
  | @sent csId endpoint msg eid ep receiver rest holds present waiting =>
      have notReceiver : tid ≠ receiver.thread := by
        rintro rfl
        have allowed := mayWake _ (holds.receiver_mem_woken present waiting).1
        simp [KernelState.mayWake, awaits] at allowed
      rw [threadState_handOver, if_neg notReceiver]
      exact awaits
  | @called csId endpoint msg eid ep receiver rest after next holds present waiting
      admitted final chosen =>
      have notReceiver : tid ≠ receiver.thread := by
        rintro rfl
        have allowed := mayWake _ (holds.receiver_mem_woken present waiting).2
        simp [KernelState.mayWake, awaits] at allowed
      rw [final, threadState_block, if_neg notCaller, threadState_handOver,
        if_neg notReceiver]
      exact awaits
  | @callStuck csId endpoint msg eid ep receiver rest holds present waiting absent =>
      have notReceiver : tid ≠ receiver.thread := by
        rintro rfl
        have allowed := mayWake _ (holds.receiver_mem_woken present waiting).2
        simp [KernelState.mayWake, awaits] at allowed
      rw [threadState_handOver, if_neg notReceiver]
      exact awaits
  | queued isSend holds present noReceiver final chosen =>
      rw [final, threadState_block, if_neg notCaller]
      exact awaits
  | received holds present waiting =>
      rw [threadState_release]
      change (if tid = _ then (before.threadState tid).map _ else before.threadState tid) = _
      rw [awaits]
      split
      · rfl
      · rfl
  | awaiting holds present noSender final chosen =>
      rw [final, threadState_block, if_neg notCaller]
      exact awaits
  | @replied toThread msg next ne awaiting admitted chosen =>
      have other : tid ≠ toThread := fun same => unanswered msg (by rw [same])
      change (before.storeReply toThread msg).threadState tid = _
      rw [threadState_storeReply, if_neg other]
      exact awaits
  | @replyStuck toThread msg ne awaiting absent =>
      have other : tid ≠ toThread := fun same => unanswered msg (by rw [same])
      rw [threadState_storeReply, if_neg other]
      exact awaits
  | signalled holds present => exact awaits
  | waiting holds present => exact awaits
  | taken isRead holds present => exact awaits
  | bound region found target =>
      rw [bindIrq_frame]
      exact awaits

end Step

end KernelState

/-! ## Runs -/

namespace Machine

variable {μ : Type} (hal : HalInterface μ)

/-- The kernel's two copies agree. -/
def CoherentMachine (machine : Machine μ) : Prop :=
  Coherent machine.kernel.threadState machine.kernel.sched

/-- Scheduled events that wake only what they may wake. -/
def inOrder (machine : Machine μ) (event : KernelEvent) : Bool :=
  machine.kernel.scheduled event && machine.kernel.undisturbed event

theorem Boots.coherent {machine : Machine μ} (boots : machine.Boots) :
    machine.CoherentMachine := by
  obtain ⟨kernel, fromBoot, same⟩ := boots
  have booted := fromBoot.booted
  have coherent : Coherent kernel.threadState kernel.sched := {
    waiting := by
      intro tid state present waits
      obtain ⟨tcb, there, rfl⟩ := Option.map_eq_some_iff.1 present
      rw [booted.runnable tid tcb there] at waits
      simp [ThreadState.awaitsIpc] at waits
    running := by simp [booted.idle]
    threadsMatch := booted.threadsMatch }
  unfold CoherentMachine
  rcases same with rfl | ⟨base, len, installed⟩
  · exact coherent
  · rw [installed]
    exact coherent

/-- Starting a thread that was never started. -/
private theorem started_coherent {kernel : KernelState} {tid : ThreadId}
    (coherent : Coherent kernel.threadState kernel.sched)
    (inactive : kernel.threadState tid = some .inactive) (entry priority nowNs : Nat) :
    Coherent
      (kernel.updateTcb tid fun tcb => { tcb with entry, state := .runnable }).threadState
      ((kernel.sched.setAdmitted tid .interactive priority none).setReady tid nowNs) := by
  obtain ⟨tcb, present, _⟩ := Option.map_eq_some_iff.1 inactive
  refine coherent.setAdmitted (Slab.lt_of_get? present) priority nowNs
    (fun other ne => ?_) fun state there => ?_
  · rw [KernelState.threadState_updateTcb, if_neg ne]
  · rw [KernelState.threadState_updateTcb, if_pos rfl, Option.map_eq_some_iff] at there
    obtain ⟨_, _, rfl⟩ := there
    rfl

/-- Every event in order keeps the copies together. -/
theorem CoherentMachine.step {before after : Machine μ} {event : KernelEvent}
    (coherent : before.CoherentMachine) (ordered : before.inOrder event = true)
    (taken : (system hal).Step before event after) : after.CoherentMachine := by
  obtain ⟨scheduled, undisturbed⟩ := Bool.and_eq_true_iff.1 ordered
  have moves := step_moves hal taken
  unfold CoherentMachine at *
  generalize after.kernel = final at moves
  cases moves with
  | ticked chosen =>
      have accounted := coherent.account
      rcases chosen with rfl | ⟨next, picked, rfl⟩ | ⟨outgoing, runs, rfl⟩
      · exact accounted _
      · exact (accounted _).setRunning next _ fun state there =>
          (accounted _).pickNext_awake picked there
      · have awake : ∀ state, before.kernel.threadState outgoing = some state →
            state.awaitsIpc = false :=
          fun state there => coherent.awake (coherent.running outgoing runs) there
        exact ((accounted _).setReady outgoing _ (fun _ _ => rfl) awake).setRunning
          outgoing _ awake
  | @called caller op nowNs next kernel effect =>
      have runs : before.kernel.sched.running = some caller := by
        simpa [KernelState.scheduled] using scheduled
      have mayWake : ∀ tid ∈ before.kernel.woken caller op,
          before.kernel.mayWake caller op tid = true :=
        List.all_eq_true.1 undisturbed
      obtain ⟨later, awake⟩ := effect.coherent coherent runs mayWake
      cases next with
      | none => exact later
      | some next => exact later.setRunning next nowNs (awake next rfl)
  | @started _ tid entry priority nowNs isStart =>
      have inactive := KernelState.inactive_of_starts scheduled isStart
      exact started_coherent coherent inactive entry priority nowNs
  | killed isKill chosen => simp [KernelState.kills_of_scheduled scheduled] at isKill
  | spawned isSpawn spawns =>
      have sched : final.sched = before.kernel.sched := by rw [spawns.frame]
      rw [sched]
      refine coherent.of_threads fun tid state there waits => ?_
      rcases KernelState.threadState_of_grows spawns.tcbs tid with same | ⟨_, inactive⟩
      · exact same ▸ there
      · rw [inactive, Option.some.injEq] at there
        rw [← there] at waits
        simp [ThreadState.awaitsIpc] at waits
  | grantedInto chosen => exact coherent

/-- A thread in `Call` stays there until a reply names it. -/
theorem CoherentMachine.awaits_reply {before after : Machine μ} {event : KernelEvent}
    (coherent : before.CoherentMachine) (ordered : before.inOrder event = true)
    (taken : (system hal).Step before event after) {tid : ThreadId}
    (awaits : before.kernel.threadState tid = some .blockedOnReply)
    (unanswered : event.repliesTo tid = false) :
    after.kernel.threadState tid = some .blockedOnReply := by
  obtain ⟨scheduled, undisturbed⟩ := Bool.and_eq_true_iff.1 ordered
  have moves := step_moves hal taken
  unfold CoherentMachine at coherent
  generalize after.kernel = final at moves
  cases moves with
  | ticked chosen => exact awaits
  | @called caller op nowNs next kernel effect =>
      have runs : before.kernel.sched.running = some caller := by
        simpa [KernelState.scheduled] using scheduled
      have kept := effect.awaits_reply coherent runs (List.all_eq_true.1 undisturbed)
        awaits (fun msg same => by simp [same, KernelEvent.repliesTo] at unanswered)
      cases next with
      | none => exact kept
      | some next => exact kept
  | @started _ other entry priority nowNs isStart =>
      have inactive := KernelState.inactive_of_starts scheduled isStart
      have ne : tid ≠ other := by
        rintro rfl
        simp [awaits] at inactive
      change (before.kernel.updateTcb other _).threadState tid = _
      rw [KernelState.threadState_updateTcb, if_neg ne]
      exact awaits
  | killed isKill chosen => simp [KernelState.kills_of_scheduled scheduled] at isKill
  | spawned isSpawn spawns =>
      rcases KernelState.threadState_of_grows spawns.tcbs tid with same | ⟨vacant, _⟩
      · exact same.trans awaits
      · exact absurd (vacant.symm.trans awaits) (by simp)
  | grantedInto chosen => exact awaits

theorem coherent_of_reachable {machine : Machine μ}
    (reachable : (system hal).Reachable (fun machine event => machine.inOrder event = true)
      machine) : machine.CoherentMachine :=
  reachable.invariant (fun _ boots => Boots.coherent boots)
    fun _ _ _ ordered coherent taken => coherent.step hal ordered taken

/-- In every run whose events are in order, a thread that waits in `Send`, `Recv` or
`Call` is neither ready nor running, and a thread in `Call` is not picked before a
reply names it. -/
theorem blockedThreads_unschedulable {machine : Machine μ}
    (reachable : (system hal).Reachable (fun machine event => machine.inOrder event = true)
      machine) :
    (∀ tid state, machine.kernel.threadState tid = some state →
      state.awaitsIpc = true → ¬ machine.kernel.sched.Schedulable tid) ∧
      ∀ tid later, machine.kernel.threadState tid = some .blockedOnReply →
        (system hal).Reaches
          (fun machine event =>
            machine.inOrder event = true ∧ event.repliesTo tid = false) machine later →
        later.kernel.threadState tid = some .blockedOnReply ∧
          later.kernel.sched.pickNext ≠ some tid := by
  have coherent := coherent_of_reachable hal reachable
  refine ⟨coherent.waiting, fun tid later awaits run => ?_⟩
  have kept : later.CoherentMachine ∧
      later.kernel.threadState tid = some .blockedOnReply := by
    let stays (machine : Machine μ) : Prop :=
      machine.CoherentMachine ∧ machine.kernel.threadState tid = some .blockedOnReply
    have initially : stays machine := ⟨coherent, awaits⟩
    refine run.invariant initially ?_
    rintro before event after ⟨ordered, unanswered⟩ ⟨together, waits⟩ taken
    exact ⟨together.step hal ordered taken,
      together.awaits_reply hal ordered taken waits unanswered⟩
  refine ⟨kept.2, fun picked => ?_⟩
  have awake := kept.1.pickNext_awake picked kept.2
  simp [ThreadState.awaitsIpc] at awake

/-- The root task makes an endpoint and a thread, starts the thread and calls the
endpoint before anyone receives there. -/
def callQueued : List KernelEvent :=
  [ .tick 0,
    .syscall 0 (.retype 0 .endpoint 1) 1,
    .syscall 0 (.retype 0 .threadControlBlock 1) 2,
    .startThread 1 4096 3,
    .syscall 0 (.call 2 (.new 7)) 4 ]

/-- The machine after `callQueued`. -/
def callQueuedMachine : Machine Unit :=
  (runWhile sampleHal inOrder callQueued sampleMachine).getD sampleMachine

theorem blockedThreads_unschedulable_sample :
    ¬ callQueuedMachine.kernel.sched.Schedulable 0 ∧
      callQueuedMachine.kernel.sched.pickNext ≠ some 0 := by
  have ran : (runWhile sampleHal inOrder callQueued sampleMachine).isSome := by
    decide +kernel
  have awaits : callQueuedMachine.kernel.threadState 0 = some .blockedOnReply := by
    decide +kernel
  obtain ⟨machine, reached⟩ := Option.isSome_iff_exists.1 ran
  have same : callQueuedMachine = machine := by
    rw [callQueuedMachine, reached]
    rfl
  have run := reaches_runWhile sampleHal (.refl sampleMachine) reached
  rw [← same] at run
  obtain ⟨blocked, unpicked⟩ :=
    blockedThreads_unschedulable sampleHal ⟨sampleMachine, sampleMachine_boots, run⟩
  exact ⟨blocked 0 _ awaits rfl, (unpicked 0 callQueuedMachine awaits (.refl _)).2⟩

/-- A receiver that takes a queued `Call` makes the caller ready while it still waits
for its reply. -/
theorem recv_readies_blocked_caller :
    ¬ ∀ machine : Machine Unit,
      (system sampleHal).Reachable
        (fun machine event => machine.kernel.scheduled event = true) machine →
      ∀ tid state, machine.kernel.threadState tid = some state →
        state.awaitsIpc = true → ¬ machine.kernel.sched.Schedulable tid := by
  intro claimed
  have ran : (runWhile sampleHal (fun machine event => machine.kernel.scheduled event)
      (callQueued ++ [.syscall 1 (.recv 2) 5]) sampleMachine).any (fun machine =>
        machine.kernel.threadState 0 = some .blockedOnReply ∧
          machine.kernel.sched.runState 0 = some .ready) := by
    decide +kernel
  obtain ⟨machine, reached, broken⟩ := (Option.any_eq_true _ _).1 ran
  obtain ⟨awaits, ready⟩ := of_decide_eq_true broken
  have run := reaches_runWhile sampleHal (.refl sampleMachine) reached
  exact claimed machine ⟨sampleMachine, sampleMachine_boots, run⟩ 0 _ awaits rfl
    (Or.inl ready)

end Machine

end Simurgh
