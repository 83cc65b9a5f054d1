import Simurgh.Core.Scheduling

/-!
# One running thread

The scheduler is meant to have one entity that is `Running`, the one that `running`
names.  `dispatch` touches only the thread that comes, so this rests on what the kernel
did with the thread that goes.  `Orderly` says for each operation when it did enough.
-/

namespace Simurgh

namespace Scheduler

variable {NT NCG : Nat} {sched : Scheduler NT NCG}

/-- The running thread is the one whose entity is `Running`. -/
def Exclusive (sched : Scheduler NT NCG) : Prop :=
  ∀ tid, sched.running = some tid ↔ sched.runState tid = some .running

/-! ## The parts of an operation -/

namespace Exclusive

theorem isSome_entity (exclusive : sched.Exclusive) {tid : ThreadId}
    (runs : sched.running = some tid) : (sched.entity tid).isSome := by
  have running := (exclusive tid).1 runs
  unfold runState at running
  obtain ⟨entity, present, _⟩ := Option.map_eq_some_iff.1 running
  rw [present]
  rfl

/-- Waking a thread is harmless unless it runs. -/
theorem setReady_iff (exclusive : sched.Exclusive) (tid : ThreadId) (nowNs : Nat) :
    (sched.setReady tid nowNs).Exclusive ↔ sched.running ≠ some tid := by
  constructor
  · intro later runs
    have ready := (later tid).1 (by rw [running_setReady, runs])
    rw [runState_setReady, if_pos rfl] at ready
    obtain ⟨_, _, absurdity⟩ := Option.map_eq_some_iff.1 ready
    cases absurdity
  · intro idle other
    rw [running_setReady, runState_setReady]
    by_cases same : other = tid
    · subst same
      rw [if_pos rfl]
      constructor
      · intro runs
        exact absurd runs idle
      · intro ready
        obtain ⟨_, _, absurdity⟩ := Option.map_eq_some_iff.1 ready
        cases absurdity
    · rw [if_neg same]
      exact exclusive other

theorem setAllReady_iff (exclusive : sched.Exclusive) (nowNs : Nat)
    (threads : List ThreadId) :
    (sched.setAllReady nowNs threads).Exclusive ↔ ∀ tid ∈ threads, sched.running ≠ some tid := by
  constructor
  · intro later tid member runs
    have ready := (later tid).1 (by rw [running_setAllReady, runs])
    rw [runState_setAllReady, if_pos member] at ready
    obtain ⟨_, _, absurdity⟩ := Option.map_eq_some_iff.1 ready
    cases absurdity
  · intro idle
    induction threads generalizing sched with
    | nil => exact exclusive
    | cons tid rest ih =>
        have first := (exclusive.setReady_iff tid nowNs).2 (idle tid (List.mem_cons_self ..))
        refine ih first fun other member => ?_
        rw [running_setReady]
        exact idle other (List.mem_cons_of_mem _ member)

theorem setBlocked (exclusive : sched.Exclusive) (tid : ThreadId) :
    (sched.setBlocked tid).Exclusive := by
  intro other
  rw [runState_setBlocked]
  constructor
  · intro runs
    obtain ⟨before, absent⟩ := running_setBlocked runs
    have running := (exclusive other).1 before
    by_cases same : other = tid
    · have present := exclusive.isSome_entity before
      rw [same, absent same] at present
      cases present
    · rw [if_neg same]
      exact running
  · by_cases same : other = tid
    · rw [if_pos same]
      intro blocked
      obtain ⟨_, _, absurdity⟩ := Option.map_eq_some_iff.1 blocked
      cases absurdity
    · rw [if_neg same]
      intro running
      have runs := (exclusive other).2 running
      unfold Scheduler.setBlocked
      cases sched.entity tid with
      | none => exact runs
      | some entity =>
          have ne : sched.running ≠ some tid := by
            rw [runs, ne_eq, Option.some.injEq]
            exact same
          simp only [if_neg ne]
          exact runs

theorem account (exclusive : sched.Exclusive) (nowNs : Nat) :
    (sched.account nowNs).Exclusive := by
  intro tid
  rw [running_account]
  constructor
  · intro absurdity
    cases absurdity
  · intro running
    rcases entity_account nowNs sched tid with same | ⟨_, before, after, _, there, _, state⟩
    · have runs : sched.running = some tid := by
        rw [exclusive tid, runState, ← same]
        exact running
      obtain ⟨before, present⟩ := Option.isSome_iff_exists.1 (exclusive.isSome_entity runs)
      obtain ⟨after, entities, _, state⟩ := entities_account runs present nowNs
      have stored : (sched.account nowNs).entity tid = some after := by
        rw [entity, entities]
        exact (Slab.get?_put_of_some present ..).trans (if_pos rfl)
      rw [runState, stored, Option.map_some, state] at running
      split at running
      · cases running
      · next ne => exact absurd (Option.some.inj running) ne
    · rw [runState, there, Option.map_some, state] at running
      split at running
      · cases running
      · next ne => exact absurd (Option.some.inj running) ne

theorem remove (exclusive : sched.Exclusive) (tid : ThreadId) :
    (sched.remove tid).Exclusive := by
  intro other
  rw [runState_remove]
  change (if sched.running = some tid then none else sched.running) = some other ↔ _
  by_cases same : other = tid
  · subst same
    rw [if_pos rfl]
    by_cases runs : sched.running = some other
    · simp [runs]
    · simp [runs]
  · rw [if_neg same]
    by_cases runs : sched.running = some tid
    · rw [if_pos runs, ← exclusive other, runs]
      simp [Ne.symm same]
    · rw [if_neg runs]
      exact exclusive other

/-- Switching to an admitted thread is harmless if nobody else runs. -/
theorem setRunning (exclusive : sched.Exclusive) {tid : ThreadId}
    (free : sched.running = none ∨ sched.running = some tid) (nowNs : Nat) :
    (sched.setRunning tid nowNs).Exclusive := by
  cases present : sched.entity tid with
  | none =>
      unfold Scheduler.setRunning
      rw [present]
      exact exclusive
  | some entity =>
      have admitted : (sched.entity tid).isSome := by
        rw [present]
        rfl
      have now := running_setRunning_of_admitted admitted nowNs
      intro other
      rw [now, runState_setRunning, runState, Option.some.injEq]
      by_cases same : other = tid
      · rw [if_pos same, same, present]
        simp
      · rw [if_neg same]
        have stopped : ¬ sched.runState other = some .running := by
          intro running
          have runs := (exclusive other).2 running
          rcases free with idle | here
          · simp [idle] at runs
          · rw [here, Option.some.injEq] at runs
            exact same runs.symm
        exact iff_of_false (Ne.symm same) stopped

end Exclusive

/-- A switch to an admitted thread is undisturbed if nobody else is still `Running`. -/
theorem exclusive_setRunning_iff {tid : ThreadId} (admitted : (sched.entity tid).isSome)
    (nowNs : Nat) :
    (sched.setRunning tid nowNs).Exclusive ↔
      ∀ other, other ≠ tid → sched.runState other ≠ some .running := by
  have now := running_setRunning_of_admitted admitted nowNs
  obtain ⟨entity, present⟩ := Option.isSome_iff_exists.1 admitted
  constructor
  · intro later other ne running
    have here := (later other).2 (by
      rw [runState_setRunning, if_neg ne]
      exact running)
    rw [now, Option.some.injEq] at here
    exact ne here.symm
  · intro stopped other
    rw [now, runState_setRunning, runState, Option.some.injEq]
    by_cases same : other = tid
    · rw [if_pos same, same, present]
      simp
    · rw [if_neg same]
      exact iff_of_false (Ne.symm same) (stopped other same)

/-- Nobody else is `Running` exactly if nobody else runs. -/
theorem Exclusive.stopped_iff (exclusive : sched.Exclusive) (first second : ThreadId) :
    (∀ other, other ≠ first → other ≠ second → sched.runState other ≠ some .running) ↔
      sched.running = none ∨ sched.running = some first ∨ sched.running = some second := by
  constructor
  · intro stopped
    cases runs : sched.running with
    | none => exact Or.inl rfl
    | some tid =>
        have running := (exclusive tid).1 runs
        rw [Option.some.injEq, Option.some.injEq]
        by_contra others
        rw [not_or, not_or] at others
        exact stopped tid others.2.1 others.2.2 running
  · intro free other notFirst notSecond running
    have runs := (exclusive other).2 running
    rcases free with idle | here | here
    · simp [idle] at runs
    · rw [here, Option.some.injEq] at runs
      exact notFirst runs.symm
    · rw [here, Option.some.injEq] at runs
      exact notSecond runs.symm

/-! ## Picking -/

private theorem foldl_pickStep_eq_none (sched : Scheduler NT NCG)
    (entities : List SchedEntity) (best : Option PickKey) :
    entities.foldl sched.pickStep best = none ↔
      best = none ∧ ∀ entity ∈ entities, entity.state ≠ .ready := by
  induction entities generalizing best with
  | nil => simp
  | cons entity rest ih =>
      rw [List.foldl_cons, ih, List.forall_mem_cons]
      by_cases ready : entity.state = .ready
      · have taken : sched.pickStep best entity ≠ none := by
          unfold pickStep
          rw [if_neg (not_not.2 ready)]
          cases best with
          | none => simp
          | some key =>
              simp only
              split
              · simp
              · simp
        simp [taken, ready]
      · have skipped : sched.pickStep best entity = best := if_pos ready
        rw [skipped]
        simp [ready]

/-- Nobody is picked exactly if nobody is ready. -/
theorem pickNext_eq_none_iff :
    sched.pickNext = none ↔ ∀ tid, sched.runState tid ≠ some .ready := by
  unfold pickNext
  rw [Option.map_eq_none_iff, foldl_pickStep_eq_none]
  constructor
  · rintro ⟨_, unready⟩ tid ready
    obtain ⟨entity, present, state⟩ := Option.map_eq_some_iff.1 ready
    exact unready entity (Slab.mem_objects.2 ⟨tid, present⟩) state
  · intro unready
    refine ⟨rfl, fun entity member state => ?_⟩
    obtain ⟨tid, present⟩ := Slab.mem_objects.1 member
    refine unready tid ?_
    rw [runState, Scheduler.entity, present, Option.map_some, state]

/-! ## Picking and switching -/

/-- Nobody but the thread is ready. -/
def AloneReady (sched : Scheduler NT NCG) (tid : ThreadId) : Prop :=
  ∀ other, other ≠ tid → sched.runState other ≠ some .ready

theorem pickNext_setBlocked_eq_none_iff {tid : ThreadId} :
    (sched.setBlocked tid).pickNext = none ↔ sched.AloneReady tid := by
  rw [pickNext_eq_none_iff]
  constructor
  · intro unready other ne
    have state := unready other
    rwa [runState_setBlocked, if_neg ne] at state
  · intro alone other
    rw [runState_setBlocked]
    by_cases same : other = tid
    · rw [if_pos same]
      cases sched.runState other with
      | none => simp
      | some state => simp
    · rw [if_neg same]
      exact alone other same

instance decidableAloneReady (sched : Scheduler NT NCG) (tid : ThreadId) :
    Decidable (sched.AloneReady tid) :=
  decidable_of_iff _ pickNext_setBlocked_eq_none_iff

namespace Exclusive

theorem runNext_of_idle (exclusive : sched.Exclusive) (idle : sched.running = none)
    (next : Option ThreadId) (nowNs : Nat) : (sched.runNext next nowNs).Exclusive := by
  cases next with
  | none => exact exclusive
  | some next => exact exclusive.setRunning (Or.inl idle) nowNs

theorem runAgain (exclusive : sched.Exclusive) (idle : sched.running = none)
    (tid : ThreadId) (nowNs : Nat) : (sched.runAgain tid nowNs).Exclusive := by
  have ready := (exclusive.setReady_iff tid nowNs).2 (by simp [idle])
  exact ready.setRunning (Or.inl ((running_setReady ..).trans idle)) nowNs

/-- While somebody runs, a switch to a thread that was picked ends that. -/
theorem runNext_pickNext_iff (exclusive : sched.Exclusive) (threadsMatch : sched.ThreadsMatch)
    (nowNs : Nat) :
    (sched.runNext sched.pickNext nowNs).Exclusive ↔
      sched.running = none ∨ sched.pickNext = none := by
  cases picked : sched.pickNext with
  | none => exact iff_of_true exclusive (Or.inr rfl)
  | some next =>
      have ready := runState_of_pickNext threadsMatch picked
      obtain ⟨entity, present, state⟩ := Option.map_eq_some_iff.1 ready
      have admitted : (sched.entity next).isSome := by
        rw [present]
        rfl
      change (sched.setRunning next nowNs).Exclusive ↔ _
      rw [exclusive_setRunning_iff admitted]
      constructor
      · intro stopped
        rcases (exclusive.stopped_iff next next).1 fun other first _ => stopped other first with
          idle | runs | runs
        · exact Or.inl idle
        · rw [exclusive next, ready] at runs
          cases runs
        · rw [exclusive next, ready] at runs
          cases runs
      · rintro (idle | absurdity) other ne running
        · rw [← exclusive other, idle] at running
          cases running
        · cases absurdity

end Exclusive

theorem running_setBlocked_of_idle (idle : sched.running = none) (tid : ThreadId) :
    (sched.setBlocked tid).running = none := by
  cases runs : (sched.setBlocked tid).running with
  | none => rfl
  | some other =>
      have before := (running_setBlocked runs).1
      rw [idle] at before
      cases before

theorem running_setBlocked_of_ne {tid : ThreadId} (ne : sched.running ≠ some tid) :
    (sched.setBlocked tid).running = sched.running := by
  unfold setBlocked
  cases sched.entity tid with
  | none => rfl
  | some entity => exact if_neg ne

namespace Exclusive

theorem ticked (exclusive : sched.Exclusive) (nowNs : Nat) :
    (sched.ticked nowNs).Exclusive := by
  have charged := exclusive.account nowNs
  have idle := running_account nowNs sched
  unfold Scheduler.ticked
  cases (sched.account nowNs).pickNext with
  | some next => exact charged.setRunning (Or.inl idle) nowNs
  | none =>
      cases sched.running with
      | none => exact charged
      | some outgoing => exact charged.runAgain idle outgoing nowNs

theorem blockedOr (exclusive : sched.Exclusive) (tid : ThreadId) (nowNs : Nat) :
    (sched.blockedOr tid nowNs).Exclusive := by
  have blocked := (exclusive.account nowNs).setBlocked tid
  have idle := running_setBlocked_of_idle (running_account nowNs sched) tid
  unfold Scheduler.blockedOr
  cases ((sched.account nowNs).setBlocked tid).pickNext with
  | none => exact blocked.runAgain idle tid nowNs
  | some next =>
      simp only
      split
      · exact blocked.setRunning (Or.inl idle) nowNs
      · exact blocked.runAgain idle tid nowNs

theorem yielded (exclusive : sched.Exclusive) (nowNs : Nat) :
    (sched.yielded nowNs).Exclusive := by
  have charged := exclusive.account nowNs
  have idle := running_account nowNs sched
  unfold Scheduler.yielded
  cases sched.running with
  | none => exact charged.runNext_of_idle idle _ nowNs
  | some outgoing =>
      have stopped := running_setBlocked_of_idle idle outgoing
      have ready := ((charged.setBlocked outgoing).setReady_iff outgoing nowNs).2
        (by simp [stopped])
      exact ready.setRunning (Or.inl ((running_setReady ..).trans stopped)) nowNs

/-- Somebody else is made ready and runs next, while the caller waits. -/
theorem handOver_iff (exclusive : sched.Exclusive) {caller receiver : ThreadId}
    {later : Scheduler NT NCG} (admitted : (later.entity receiver).isSome)
    (others : ∀ other, other ≠ receiver → other ≠ caller →
      later.runState other = sched.runState other)
    (stops : caller ≠ receiver → later.runState caller ≠ some .running) (nowNs : Nat) :
    (later.setRunning receiver nowNs).Exclusive ↔
      sched.running = none ∨ sched.running = some receiver ∨ sched.running = some caller := by
  rw [exclusive_setRunning_iff admitted, ← exclusive.stopped_iff]
  constructor
  · intro stopped other notReceiver notCaller
    rw [← others other notReceiver notCaller]
    exact stopped other notReceiver
  · intro stopped other notReceiver
    by_cases isCaller : other = caller
    · subst isCaller
      exact stops notReceiver
    · rw [others other notReceiver isCaller]
      exact stopped other notReceiver isCaller

/-- The caller waits in a queue and somebody who is ready runs. -/
theorem park_iff (exclusive : sched.Exclusive) (threadsMatch : sched.ThreadsMatch)
    (caller : ThreadId) (nowNs : Nat) :
    ((sched.setBlocked caller).runNext (sched.setBlocked caller).pickNext nowNs).Exclusive ↔
      sched.running = none ∨ sched.running = some caller ∨ sched.AloneReady caller := by
  have blocked := exclusive.setBlocked caller
  rw [blocked.runNext_pickNext_iff (threadsMatch.setBlocked caller),
    pickNext_setBlocked_eq_none_iff]
  by_cases runs : sched.running = some caller
  · have cleared : (sched.setBlocked caller).running = none := by
      rw [running_setBlocked_of_some (exclusive.isSome_entity runs), if_pos runs]
    simp [cleared, runs]
  · rw [running_setBlocked_of_ne runs]
    simp [runs]

end Exclusive

end Scheduler

/-! ## The operations -/

namespace KernelState

variable {state : KernelState} {caller : ThreadId} {op : SyscallOp} {target : ThreadId}

/-- A syscall hands over only to an admitted thread, and only an admitted caller does. -/
theorem admitted_of_demands
    (demands : state.demands caller op = .handOver target ∨
      state.demands caller op = .answer target) :
    state.admitted target = true ∧ state.admitted caller = true := by
  have send : ∀ isCall endpoint, state.demandSend caller isCall endpoint = .handOver target ∨
      state.demandSend caller isCall endpoint = .answer target →
        state.admitted target = true ∧ state.admitted caller = true := by
    intro isCall endpoint demands
    unfold demandSend demandPark at demands
    grind
  cases op with
  | send endpoint msg => exact send _ _ demands
  | call endpoint msg => exact send _ _ demands
  | reply toThread msg =>
      simp only [KernelState.demands] at demands
      grind
  | recv endpoint =>
      simp only [KernelState.demands, demandPark] at demands
      grind
  | signal notification bits =>
      simp only [KernelState.demands] at demands
      grind
  | wait notification =>
      simp only [KernelState.demands] at demands
      grind
  | _ => simp [KernelState.demands] at demands

end KernelState

namespace SchedulingOp

/-- When a demand leaves one running thread. -/
def DemandOrderly (caller : ThreadId) (sched : KScheduler) : Demand → Prop
  | .wake threads => ∀ tid ∈ threads, sched.running ≠ some tid
  | .park => sched.running = none ∨ sched.running = some caller ∨ sched.AloneReady caller
  | .handOver target | .answer target =>
      sched.running = none ∨ sched.running = some target ∨ sched.running = some caller
  | _ => True

/-- When an operation leaves one running thread. -/
def Orderly (state : KernelState) : SchedulingOp → Prop
  | wakeBlocked tid _ | initUserThread tid _ _ => state.sched.running ≠ some tid
  | terminateThread tid _ =>
      state.sched.running = none ∨ state.sched.running = some tid ∨
        state.sched.AloneReady tid
  | terminateThreadAndHandoff tid incoming _ =>
      state.sched.running = none ∨ state.sched.running = some tid ∨
        state.sched.running = some incoming ∨ incoming = tid ∨
          state.admitted incoming = false
  | syscall caller op _ _ => DemandOrderly caller state.sched (state.demands caller op)
  | _ => True

/-! ## One operation -/

section Step

variable {before : KernelState}

/-- A thread that is started anew is ready. -/
theorem admitted_exclusive_iff {sched : KScheduler} (exclusive : sched.Exclusive)
    (tid : ThreadId) (nowNs : Nat) :
    ((sched.setAdmitted tid .interactive maxPriority none).setReady tid nowNs).Exclusive ↔
      sched.running ≠ some tid := by
  by_cases inside : tid < maxThreads
  · have states : ∀ other,
        ((sched.setAdmitted tid .interactive maxPriority none).setReady tid nowNs).runState
          other = if other = tid then some .ready else sched.runState other := by
      intro other
      rw [Scheduler.runState_setReady, Scheduler.runState_setAdmitted inside]
      by_cases same : other = tid
      · simp [same]
      · simp [same]
    have running : ((sched.setAdmitted tid .interactive maxPriority none).setReady tid
        nowNs).running = sched.running := Scheduler.running_setReady ..
    constructor
    · intro later runs
      have ready := (later tid).1 (running.trans runs)
      rw [states, if_pos rfl] at ready
      cases ready
    · intro idle other
      rw [running, states]
      by_cases same : other = tid
      · rw [if_pos same, same]
        exact iff_of_false idle (by simp)
      · rw [if_neg same]
        exact exclusive other
  · rw [setAdmitted_outside (Nat.le_of_not_lt inside)]
    exact exclusive.setReady_iff tid nowNs

theorem demand_exclusive_iff (exclusive : before.sched.Exclusive)
    (threadsMatch : before.sched.ThreadsMatch) {caller : ThreadId} {op : SyscallOp}
    {demand : Demand} (demands : before.demands caller op = demand) (nowNs laterNs : Nat) :
    ((demand.sched caller nowNs before.sched).runNext
        (demand.next caller nowNs before.sched) laterNs).Exclusive ↔
      DemandOrderly caller before.sched demand := by
  have charged := exclusive.account nowNs
  have idle := Scheduler.running_account nowNs before.sched
  cases demand with
  | nothing => exact iff_of_true exclusive trivial
  | wake threads => exact exclusive.setAllReady_iff nowNs threads
  | charge => exact iff_of_true (charged.runNext_of_idle idle _ laterNs) trivial
  | sleep => exact iff_of_true (charged.setBlocked caller) trivial
  | park => exact exclusive.park_iff threadsMatch caller laterNs
  | handOver target =>
      obtain ⟨ready, _⟩ := KernelState.admitted_of_demands (Or.inl demands)
      refine @Scheduler.Exclusive.handOver_iff _ _ _ exclusive caller target _ ?_ ?_ ?_ laterNs
      · change (((before.sched.setReady target nowNs).setBlocked caller).entity target).isSome
        rw [Scheduler.isSome_entity_setBlocked, Scheduler.isSome_entity_setReady]
        exact ready
      · intro other notTarget notCaller
        change ((before.sched.setReady target nowNs).setBlocked caller).runState other = _
        rw [Scheduler.runState_setBlocked, if_neg notCaller, Scheduler.runState_setReady,
          if_neg notTarget]
      · intro _ running
        change ((before.sched.setReady target nowNs).setBlocked caller).runState caller = _
          at running
        rw [Scheduler.runState_setBlocked, if_pos rfl] at running
        obtain ⟨_, _, absurdity⟩ := Option.map_eq_some_iff.1 running
        cases absurdity
  | answer target =>
      obtain ⟨ready, _⟩ := KernelState.admitted_of_demands (Or.inr demands)
      refine @Scheduler.Exclusive.handOver_iff _ _ _ exclusive caller target _ ?_ ?_ ?_ laterNs
      · change (((before.sched.setReady target nowNs).setReady caller nowNs).entity target).isSome
        rw [Scheduler.isSome_entity_setReady, Scheduler.isSome_entity_setReady]
        exact ready
      · intro other notTarget notCaller
        change ((before.sched.setReady target nowNs).setReady caller nowNs).runState other = _
        rw [Scheduler.runState_setReady, if_neg notCaller, Scheduler.runState_setReady,
          if_neg notTarget]
      · intro _ running
        change ((before.sched.setReady target nowNs).setReady caller nowNs).runState caller = _
          at running
        rw [Scheduler.runState_setReady, if_pos rfl] at running
        obtain ⟨_, _, absurdity⟩ := Option.map_eq_some_iff.1 running
        cases absurdity

/-- The scheduler without a thread that has exited. -/
theorem schedWithout_exclusive {sched : KScheduler} (exclusive : sched.Exclusive)
    (tid : ThreadId) (nowNs : Nat) :
    (KernelState.schedWithout tid nowNs sched).Exclusive := by
  unfold KernelState.schedWithout
  split
  · exact (exclusive.account nowNs).remove tid
  · exact exclusive.remove tid

/-- After an exit nobody runs, or the one who ran before. -/
theorem running_schedWithout (tid : ThreadId) (nowNs : Nat) (sched : KScheduler) :
    (KernelState.schedWithout tid nowNs sched).running =
      if sched.running = some tid then none else sched.running := by
  unfold KernelState.schedWithout
  by_cases runs : sched.running = some tid
  · rw [if_pos runs, if_pos runs]
    change (if (sched.account nowNs).running = some tid then none else _) = none
    rw [Scheduler.running_account]
    rfl
  · rw [if_neg runs, if_neg runs]
    exact if_neg runs

theorem runState_schedWithout_of_ne {tid other : ThreadId} (nowNs : Nat) {sched : KScheduler}
    (ne : other ≠ tid) :
    (KernelState.schedWithout tid nowNs sched).runState other = sched.runState other := by
  unfold KernelState.schedWithout
  rw [Scheduler.runState_remove, if_neg ne]
  split
  · next runs =>
      rcases Scheduler.entity_account nowNs sched other with same | ⟨here, _⟩
      · rw [Scheduler.runState, Scheduler.runState, same]
      · rw [runs, Option.some.injEq] at here
        exact absurd here.symm ne
  · rfl

theorem isSome_entity_schedWithout (tid other : ThreadId) (nowNs : Nat)
    (sched : KScheduler) :
    ((KernelState.schedWithout tid nowNs sched).entity other).isSome ↔
      other ≠ tid ∧ (sched.entity other).isSome := by
  have admitted : ∀ sched : KScheduler,
      (sched.entity other).isSome = (sched.runState other).isSome := by
    intro sched
    rw [Scheduler.runState, Option.isSome_map]
  have removed : ∀ sched : KScheduler, ((sched.remove tid).entity other).isSome ↔
      other ≠ tid ∧ (sched.entity other).isSome := by
    intro sched
    rw [admitted, admitted, Scheduler.runState_remove]
    by_cases same : other = tid
    · simp [same]
    · simp [same]
  unfold KernelState.schedWithout
  split
  · rw [removed]
    have charged : ((sched.account nowNs).entity other).isSome =
        (sched.entity other).isSome := by
      rcases Scheduler.entity_account nowNs sched other with
        same | ⟨_, _, _, there, here, _⟩
      · rw [same]
      · rw [there, here]
        rfl
    rw [charged]
  · exact removed sched

/-- When nobody is left to be picked after an exit. -/
theorem pickNext_schedWithout_eq_none_iff (tid : ThreadId) (nowNs : Nat) (sched : KScheduler) :
    (KernelState.schedWithout tid nowNs sched).pickNext = none ↔ sched.AloneReady tid := by
  rw [Scheduler.pickNext_eq_none_iff]
  constructor
  · intro unready other ne
    rw [← runState_schedWithout_of_ne nowNs ne]
    exact unready other
  · intro alone other
    by_cases same : other = tid
    · unfold KernelState.schedWithout
      rw [Scheduler.runState_remove, if_pos same]
      simp
    · rw [runState_schedWithout_of_ne nowNs same]
      exact alone other same

/-- An operation leaves one running thread exactly if it is orderly. -/
theorem resched_exclusive_iff (exclusive : before.sched.Exclusive)
    (threadsMatch : before.sched.ThreadsMatch) (op : SchedulingOp) :
    (op.resched before).Exclusive ↔ op.Orderly before := by
  cases op with
  | preemptTick nowNs => exact iff_of_true (exclusive.ticked nowNs) trivial
  | cooperativeYield nowNs => exact iff_of_true (exclusive.yielded nowNs) trivial
  | blockThread tid nowNs => exact iff_of_true (exclusive.blockedOr tid nowNs) trivial
  | wakeBlocked tid nowNs => exact exclusive.setReady_iff tid nowNs
  | terminateThread tid nowNs =>
      have without := schedWithout_exclusive exclusive tid nowNs
      change ((KernelState.schedWithout tid nowNs before.sched).runNext _ nowNs).Exclusive ↔ _
      rw [without.runNext_pickNext_iff (kept_threadsMatch.schedWithout threadsMatch tid nowNs),
        running_schedWithout]
      by_cases runs : before.sched.running = some tid
      · rw [if_pos runs]
        exact iff_of_true (Or.inl rfl) (Or.inr (Or.inl runs))
      · rw [if_neg runs, pickNext_schedWithout_eq_none_iff]
        simp [Orderly, runs]
  | terminateThreadAndHandoff tid incoming nowNs =>
      have without := schedWithout_exclusive exclusive tid nowNs
      change ((KernelState.schedWithout tid nowNs before.sched).setRunning incoming
        nowNs).Exclusive ↔ _
      by_cases admitted :
          ((KernelState.schedWithout tid nowNs before.sched).entity incoming).isSome
      · have present := (isSome_entity_schedWithout tid incoming nowNs before.sched).1 admitted
        rw [Scheduler.exclusive_setRunning_iff admitted]
        have stopped := without.stopped_iff incoming incoming
        rw [show (∀ other, other ≠ incoming →
            (KernelState.schedWithout tid nowNs before.sched).runState other ≠ some .running) ↔
            ∀ other, other ≠ incoming → other ≠ incoming →
              (KernelState.schedWithout tid nowNs before.sched).runState other ≠ some .running
          from ⟨fun all other first _ => all other first, fun all other first =>
            all other first first⟩, stopped, running_schedWithout]
        have notGone : incoming ≠ tid := present.1
        have there : before.admitted incoming = true := present.2
        by_cases runs : before.sched.running = some tid
        · rw [if_pos runs]
          exact iff_of_true (Or.inl rfl) (Or.inr (Or.inl runs))
        · rw [if_neg runs]
          simp [Orderly, runs, notGone, there]
      · have unchanged : (KernelState.schedWithout tid nowNs before.sched).setRunning incoming
            nowNs = KernelState.schedWithout tid nowNs before.sched := by
          unfold Scheduler.setRunning
          rw [Option.not_isSome_iff_eq_none.1 admitted]
        rw [unchanged]
        refine iff_of_true without ?_
        have absent := mt (isSome_entity_schedWithout tid incoming nowNs before.sched).2 admitted
        by_cases same : incoming = tid
        · exact Or.inr (Or.inr (Or.inr (Or.inl same)))
        · refine Or.inr (Or.inr (Or.inr (Or.inr ?_)))
          rw [not_and] at absent
          exact Bool.eq_false_iff.2 (absent same)
  | yieldToThread source target nowNs =>
      have blocked := (exclusive.account nowNs).setBlocked source
      have idle := Scheduler.running_setBlocked_of_idle
        (Scheduler.running_account nowNs before.sched) source
      exact iff_of_true (blocked.setRunning (Or.inl idle) nowNs) trivial
  | initUserThread tid entry nowNs => exact admitted_exclusive_iff exclusive tid nowNs
  | syscall caller op nowNs laterNs =>
      exact demand_exclusive_iff exclusive threadsMatch rfl nowNs laterNs

end Step

/-! ## Runs -/

section Runs

variable {μ : Type} (hal : HalInterface μ)

/-- A scheduler whose entities agree with the running thread. -/
structure OneRunning (sched : KScheduler) : Prop where
  exclusive : sched.Exclusive
  threadsMatch : sched.ThreadsMatch

theorem boots_oneRunning {machine : Machine μ} (boots : machine.Boots) :
    OneRunning machine.kernel.sched := by
  have empty : (Scheduler.new interactiveQuantumNs : KScheduler).Exclusive := by
    intro tid
    simp [Scheduler.new, Scheduler.runState, Scheduler.entity]
  obtain ⟨kernel, fromBoot, same⟩ := boots
  have booted := fromBoot.booted
  obtain ⟨rootTid, scheduled⟩ := booted.scheduled
  have first : OneRunning kernel.sched := by
    refine ⟨?_, booted.threadsMatch⟩
    rw [scheduled]
    exact (admitted_exclusive_iff empty rootTid 0).2 (by simp [Scheduler.new])
  rcases same with rfl | ⟨base, len, installed⟩
  · exact first
  · rw [installed]
    exact first

/-- Orderly operations keep one running thread. -/
theorem oneRunning_of_reachable {machine : Machine μ}
    (reachable : (system hal).Reachable (fun machine op => op.Orderly machine.kernel) machine) :
    OneRunning machine.kernel.sched := by
  refine reachable.invariant (fun _ boots => boots_oneRunning boots) ?_
  intro before op after orderly holds taken
  rw [sched_of_step hal taken]
  exact ⟨(resched_exclusive_iff holds.exclusive holds.threadsMatch op).2 orderly,
    kept_threadsMatch.resched holds.threadsMatch op⟩

/-- While operations are orderly, at most one entity is `Running`, and it is that of the
running thread.  The first operation that is not orderly ends that. -/
theorem running_iff_entityRunning {machine : Machine μ}
    (reachable : (system hal).Reachable (fun machine op => op.Orderly machine.kernel) machine) :
    ((∀ first second, machine.kernel.sched.runState first = some .running →
        machine.kernel.sched.runState second = some .running → first = second) ∧
      ∀ tid, machine.kernel.sched.running = some tid ↔
        machine.kernel.sched.runState tid = some .running) ∧
      ∀ op after, (system hal).Step machine op after →
        ((∀ tid, after.kernel.sched.running = some tid ↔
          after.kernel.sched.runState tid = some .running) ↔ op.Orderly machine.kernel) := by
  have holds := oneRunning_of_reachable hal reachable
  refine ⟨⟨fun first second one other => ?_, holds.exclusive⟩, fun op after taken => ?_⟩
  · have firstRuns := (holds.exclusive first).2 one
    have secondRuns := (holds.exclusive second).2 other
    rw [firstRuns, Option.some.injEq] at secondRuns
    exact secondRuns
  · change after.kernel.sched.Exclusive ↔ _
    rw [sched_of_step hal taken]
    exact resched_exclusive_iff holds.exclusive holds.threadsMatch op

end Runs

/-! ## A small run -/

instance decidableDemandOrderly (caller : ThreadId) (sched : KScheduler) :
    (demand : Demand) → Decidable (DemandOrderly caller sched demand)
  | .wake threads => inferInstanceAs (Decidable (∀ tid ∈ threads, sched.running ≠ some tid))
  | .park => inferInstanceAs (Decidable (_ ∨ _ ∨ sched.AloneReady caller))
  | .handOver target | .answer target =>
      inferInstanceAs (Decidable
        (sched.running = none ∨ sched.running = some target ∨ sched.running = some caller))
  | .nothing | .charge | .sleep => isTrue trivial

instance decidableOrderly (state : KernelState) :
    (op : SchedulingOp) → Decidable (op.Orderly state)
  | wakeBlocked tid _ | initUserThread tid _ _ =>
      inferInstanceAs (Decidable (state.sched.running ≠ some tid))
  | terminateThread tid _ =>
      inferInstanceAs (Decidable (_ ∨ _ ∨ state.sched.AloneReady tid))
  | terminateThreadAndHandoff tid incoming _ =>
      inferInstanceAs (Decidable
        (state.sched.running = none ∨ state.sched.running = some tid ∨
          state.sched.running = some incoming ∨ incoming = tid ∨
            state.admitted incoming = false))
  | syscall caller op _ _ => decidableDemandOrderly caller state.sched (state.demands caller op)
  | preemptTick _ | cooperativeYield _ | blockThread _ _ | yieldToThread _ _ _ =>
      isTrue trivial

/-- The machine after an operation. -/
def next (machine : Machine Unit) (op : SchedulingOp) : Option (Machine Unit) :=
  (op.exec sampleHal machine).state?

/-- The first thread starts a second one, which answers a `Call` that still waits in the
queue. -/
def answeredEarly : List SchedulingOp :=
  [ .preemptTick 0,
    .syscall 0 (.retype 0 .endpoint 1) 1 1,
    .syscall 0 (.retype 0 .threadControlBlock 1) 2 2,
    .initUserThread 1 4096 3,
    .syscall 0 (.call 2 (.new 7)) 4 4,
    .syscall 1 (.reply 0 (.new 7)) 5 5 ]

/-- The machine after `answeredEarly`. -/
def answeredMachine : Machine Unit :=
  (TransitionSystem.runWhile next (fun machine op => op.Orderly machine.kernel)
    answeredEarly sampleMachine).getD sampleMachine

theorem running_iff_entityRunning_sample :
    (∀ tid, answeredMachine.kernel.sched.running = some tid ↔
        answeredMachine.kernel.sched.runState tid = some .running) ∧
      answeredMachine.kernel.sched.running = some 0 := by
  have ran : (TransitionSystem.runWhile next (fun machine op => op.Orderly machine.kernel)
      answeredEarly sampleMachine).isSome := by
    decide +kernel
  obtain ⟨machine, reached⟩ := Option.isSome_iff_exists.1 ran
  have same : answeredMachine = machine := by
    rw [answeredMachine, reached]
    rfl
  have run : (system sampleHal).Reaches (fun machine op => op.Orderly machine.kernel)
      sampleMachine machine :=
    (TransitionSystem.Reaches.runWhile (fun _ _ _ taken => taken) (.refl _) reached).mono
      fun _ _ admitted => of_decide_eq_true admitted
  rw [← same] at run
  have holds := running_iff_entityRunning sampleHal
    ⟨sampleMachine, sampleMachine_boots, run⟩
  exact ⟨holds.1.2, by decide +kernel⟩

/-- The thread that was answered early receives its own message, and is made ready while
it runs. -/
theorem recv_readies_running_thread :
    ¬ ∀ machine : Machine Unit,
      (system sampleHal).Reachable TransitionSystem.anyStep machine →
      (∀ first second, machine.kernel.sched.runState first = some .running →
        machine.kernel.sched.runState second = some .running → first = second) ∧
      ∀ tid, machine.kernel.sched.running = some tid ↔
        machine.kernel.sched.runState tid = some .running := by
  intro claimed
  have ran : (TransitionSystem.runWhile next (fun _ _ => true)
      (answeredEarly ++ [.syscall 0 (.recv 2) 6 6]) sampleMachine).any (fun machine =>
        machine.kernel.sched.running = some 0 ∧
          machine.kernel.sched.runState 0 = some .ready) := by
    decide +kernel
  obtain ⟨machine, reached, broken⟩ := (Option.any_eq_true _ _).1 ran
  obtain ⟨runs, ready⟩ := of_decide_eq_true broken
  have run : (system sampleHal).Reaches TransitionSystem.anyStep sampleMachine machine :=
    (TransitionSystem.Reaches.runWhile (fun _ _ _ taken => taken) (.refl _) reached).mono
      fun _ _ _ => trivial
  have running := ((claimed machine ⟨sampleMachine, sampleMachine_boots, run⟩).2 0).1 runs
  rw [ready] at running
  cases running

end SchedulingOp

end Simurgh
