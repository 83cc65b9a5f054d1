import Simurgh.Core.Exclusive
import Simurgh.Sched.RunTimes

/-!
# Charging processor time

Only `account` charges a thread for the time that it ran, but other operations take the
processor from it as well.  `Charges` says for each operation when no time is lost.
-/

namespace Simurgh

/-- No time, no charge. -/
theorem SchedEntity.Fits.charged_zero {entity : SchedEntity} (fits : entity.Fits) :
    (entity.charged 0).vruntime = entity.vruntime := by
  have bound := fits.vruntime
  change saturatingAdd entity.vruntime (asU64 (0 * weightOne / _)) = _
  rw [Nat.zero_mul, Nat.zero_div]
  unfold saturatingAdd asU64
  omega

namespace Scheduler

variable {NT NCG : Nat} {sched : Scheduler NT NCG}

/-- The virtual run time of a thread. -/
def timeOf (sched : Scheduler NT NCG) (tid : ThreadId) : Option Nat :=
  (sched.entity tid).map SchedEntity.vruntime

theorem timeOf_of_present {tid : ThreadId} {entity : SchedEntity}
    (present : sched.entity tid = some entity) :
    sched.timeOf tid = some entity.vruntime := by
  rw [timeOf, present, Option.map_some]

/-- The virtual run time of the running thread once it has been charged. -/
def timeAt (sched : Scheduler NT NCG) (nowNs : Nat) (entity : SchedEntity) : Nat :=
  (entity.charged (nowNs - sched.runningSinceNs)).vruntime

/-- The running thread owes nothing. -/
def Settled (sched : Scheduler NT NCG) (nowNs : Nat) : Prop :=
  ∀ tid entity, sched.running = some tid → sched.entity tid = some entity →
    sched.timeAt nowNs entity = entity.vruntime

/-! ## The parts of an operation -/

/-- An update of an entity that does not touch its run time. -/
theorem timeOf_of_entity {later : Scheduler NT NCG} {tid : ThreadId}
    {update : SchedEntity → SchedEntity}
    (entities : ∀ i, later.entity i =
      if i = tid then (sched.entity i).map update else sched.entity i)
    (keeps : ∀ entity, (update entity).vruntime = entity.vruntime) (other : ThreadId) :
    later.timeOf other = sched.timeOf other := by
  unfold timeOf
  rw [entities]
  by_cases same : other = tid
  · rw [if_pos same, Option.map_map]
    have composed : SchedEntity.vruntime ∘ update = SchedEntity.vruntime := funext keeps
    rw [composed]
  · rw [if_neg same]

@[simp]
theorem timeOf_setReady (tid : ThreadId) (nowNs : Nat) (other : ThreadId) :
    (sched.setReady tid nowNs).timeOf other = sched.timeOf other :=
  timeOf_of_entity (entity_setReady tid nowNs sched) (fun _ => rfl) other

@[simp]
theorem timeOf_setAllReady (nowNs : Nat) (threads : List ThreadId) (other : ThreadId) :
    (sched.setAllReady nowNs threads).timeOf other = sched.timeOf other := by
  induction threads generalizing sched with
  | nil => rfl
  | cons tid rest ih =>
      exact ih.trans (timeOf_setReady tid nowNs other)

@[simp]
theorem timeOf_setBlocked (tid other : ThreadId) :
    (sched.setBlocked tid).timeOf other = sched.timeOf other :=
  timeOf_of_entity (entity_setBlocked tid sched) (fun _ => rfl) other

@[simp]
theorem timeOf_setRunning (tid : ThreadId) (nowNs : Nat) (other : ThreadId) :
    (sched.setRunning tid nowNs).timeOf other = sched.timeOf other :=
  timeOf_of_entity (entity_setRunning tid nowNs sched) (fun _ => rfl) other

@[simp]
theorem timeOf_runNext (next : Option ThreadId) (nowNs : Nat) (other : ThreadId) :
    (sched.runNext next nowNs).timeOf other = sched.timeOf other := by
  cases next with
  | none => rfl
  | some next => exact timeOf_setRunning next nowNs other

@[simp]
theorem timeOf_runAgain (tid : ThreadId) (nowNs : Nat) (other : ThreadId) :
    (sched.runAgain tid nowNs).timeOf other = sched.timeOf other :=
  (timeOf_setRunning tid nowNs other).trans (timeOf_setReady tid nowNs other)

theorem timeOf_remove_of_ne {tid other : ThreadId} (ne : other ≠ tid) :
    (sched.remove tid).timeOf other = sched.timeOf other := by
  unfold timeOf
  rw [entity_remove, if_neg ne]

theorem timeOf_account {tid : ThreadId} {entity : SchedEntity}
    (runs : sched.running = some tid) (present : sched.entity tid = some entity)
    (nowNs : Nat) : (sched.account nowNs).timeOf tid = some (sched.timeAt nowNs entity) := by
  unfold timeOf
  rw [Scheduler.entity]
  simp only [account, runs, present, entities_chargeGroup]
  rw [Slab.get?_put_of_some present, if_pos rfl, Option.map_some]
  split
  · rfl
  · rfl

/-- A thread that starts while nobody runs starts its clock. -/
theorem since_setRunning (idle : sched.running = none) {tid : ThreadId} {nowNs : Nat}
    (runs : (sched.setRunning tid nowNs).running ≠ none) :
    (sched.setRunning tid nowNs).runningSinceNs = nowNs := by
  unfold setRunning at runs ⊢
  cases present : sched.entity tid with
  | none =>
      rw [present] at runs
      exact absurd idle runs
  | some entity => rfl

@[simp]
theorem since_updateEntity (tid : ThreadId) (update : SchedEntity → SchedEntity) :
    (sched.updateEntity tid update).runningSinceNs = sched.runningSinceNs := by
  unfold updateEntity
  split
  · rfl
  · rfl

@[simp]
theorem since_setReady (tid : ThreadId) (nowNs : Nat) :
    (sched.setReady tid nowNs).runningSinceNs = sched.runningSinceNs :=
  since_updateEntity ..

theorem since_setAllReady (nowNs : Nat) (threads : List ThreadId) :
    (sched.setAllReady nowNs threads).runningSinceNs = sched.runningSinceNs := by
  induction threads generalizing sched with
  | nil => rfl
  | cons tid rest ih =>
      exact ih.trans (since_setReady tid nowNs)

theorem since_setBlocked (tid : ThreadId) :
    (sched.setBlocked tid).runningSinceNs = sched.runningSinceNs := by
  unfold setBlocked
  split
  · rfl
  · exact since_updateEntity ..

theorem since_runNext (idle : sched.running = none) {next : Option ThreadId} {nowNs : Nat}
    (runs : (sched.runNext next nowNs).running ≠ none) :
    (sched.runNext next nowNs).runningSinceNs = nowNs := by
  cases next with
  | none => exact absurd idle runs
  | some next => exact since_setRunning idle runs

theorem since_runAgain (idle : sched.running = none) {tid : ThreadId} {nowNs : Nat}
    (runs : (sched.runAgain tid nowNs).running ≠ none) :
    (sched.runAgain tid nowNs).runningSinceNs = nowNs :=
  since_setRunning ((running_setReady ..).trans idle) runs

theorem timeOf_ticked (nowNs : Nat) (tid : ThreadId) :
    (sched.ticked nowNs).timeOf tid = (sched.account nowNs).timeOf tid := by
  unfold ticked
  split
  · exact timeOf_setRunning ..
  · exact timeOf_runAgain ..
  · rfl

theorem since_ticked {nowNs : Nat} (runs : (sched.ticked nowNs).running ≠ none) :
    (sched.ticked nowNs).runningSinceNs = nowNs := by
  have idle := running_account nowNs sched
  revert runs
  unfold ticked
  split
  · exact since_setRunning idle
  · exact since_runAgain idle
  · exact fun runs => absurd idle runs

theorem timeOf_blockedOr (tid : ThreadId) (nowNs : Nat) (other : ThreadId) :
    (sched.blockedOr tid nowNs).timeOf other = (sched.account nowNs).timeOf other := by
  unfold blockedOr
  split
  · split
    · rw [timeOf_setRunning, timeOf_setBlocked]
    · rw [timeOf_runAgain, timeOf_setBlocked]
  · rw [timeOf_runAgain, timeOf_setBlocked]

theorem since_blockedOr {tid : ThreadId} {nowNs : Nat}
    (runs : (sched.blockedOr tid nowNs).running ≠ none) :
    (sched.blockedOr tid nowNs).runningSinceNs = nowNs := by
  have idle := running_setBlocked_of_idle (running_account nowNs sched) tid
  revert runs
  unfold blockedOr
  split
  · split
    · exact since_setRunning idle
    · exact since_runAgain idle
  · exact since_runAgain idle

theorem timeOf_yielded (nowNs : Nat) (tid : ThreadId) :
    (sched.yielded nowNs).timeOf tid = (sched.account nowNs).timeOf tid := by
  unfold yielded
  split
  · exact timeOf_runNext ..
  · rw [timeOf_setRunning, timeOf_setReady, timeOf_setBlocked]

theorem since_yielded {nowNs : Nat} (runs : (sched.yielded nowNs).running ≠ none) :
    (sched.yielded nowNs).runningSinceNs = nowNs := by
  have idle := running_account nowNs sched
  revert runs
  unfold yielded
  split
  · exact since_runNext idle
  · next outgoing _ =>
      have stopped := running_setBlocked_of_idle idle outgoing
      exact since_setRunning ((running_setReady ..).trans stopped)

theorem settled_iff {tid : ThreadId} {entity : SchedEntity}
    (runs : sched.running = some tid) (present : sched.entity tid = some entity)
    (nowNs : Nat) : sched.Settled nowNs ↔ sched.timeAt nowNs entity = entity.vruntime := by
  constructor
  · intro settled
    exact settled tid entity runs present
  · intro same other found runsOther presentOther
    rw [runs, Option.some.injEq] at runsOther
    subst runsOther
    rw [present, Option.some.injEq] at presentOther
    rw [← presentOther]
    exact same

end Scheduler

namespace SchedulingOp

/-! ## The operations -/

/-- When a demand takes the processor from the running thread. -/
def demandStopNs (caller : ThreadId) (sched : KScheduler) (nowNs laterNs : Nat) :
    Demand → Nat
  | .answer _ => laterNs
  | .park | .handOver _ => if sched.running = some caller then nowNs else laterNs
  | _ => nowNs

/-- When an operation takes the processor from the running thread. -/
def stopNs (state : KernelState) : SchedulingOp → Nat
  | preemptTick nowNs | cooperativeYield nowNs | blockThread _ nowNs | wakeBlocked _ nowNs
  | terminateThread _ nowNs | terminateThreadAndHandoff _ _ nowNs
  | yieldToThread _ _ nowNs | initUserThread _ _ nowNs => nowNs
  | syscall caller op nowNs laterNs =>
      demandStopNs caller state.sched nowNs laterNs (state.demands caller op)

/-- When an operation starts the next thread. -/
def startNs : SchedulingOp → Nat
  | preemptTick nowNs | cooperativeYield nowNs | blockThread _ nowNs | wakeBlocked _ nowNs
  | terminateThread _ nowNs | terminateThreadAndHandoff _ _ nowNs
  | yieldToThread _ _ nowNs | initUserThread _ _ nowNs => nowNs
  | syscall _ _ _ laterNs => laterNs

/-- Time does not run backwards within an operation. -/
def InOrder : SchedulingOp → Prop
  | syscall _ _ nowNs laterNs => nowNs ≤ laterNs
  | _ => True

/-- The thread that an operation terminates. -/
def kills : SchedulingOp → Option ThreadId
  | terminateThread tid _ | terminateThreadAndHandoff tid _ _ => some tid
  | _ => none

/-- When a demand loses no time. -/
def DemandCharges (caller : ThreadId) (sched : KScheduler) (nowNs laterNs : Nat)
    (demand : Demand) : Prop :=
  match demand with
  | .park =>
      sched.running ≠ some caller ∧ sched.AloneReady caller ∨
        sched.Settled (demandStopNs caller sched nowNs laterNs demand)
  | .handOver _ | .answer _ => sched.Settled (demandStopNs caller sched nowNs laterNs demand)
  | _ => True

/-- When an operation loses no time. -/
def Charges (state : KernelState) : SchedulingOp → Prop
  | terminateThread tid nowNs =>
      state.sched.running = some tid ∨ state.sched.AloneReady tid ∨ state.sched.Settled nowNs
  | terminateThreadAndHandoff tid incoming nowNs =>
      state.sched.running = some tid ∨ incoming = tid ∨ state.admitted incoming = false ∨
        state.sched.Settled nowNs
  | initUserThread tid _ _ =>
      state.sched.running ≠ some tid ∨ state.sched.timeOf tid = some 0
  | syscall caller op nowNs laterNs =>
      DemandCharges caller state.sched nowNs laterNs (state.demands caller op)
  | _ => True

/-- What becomes of the time of the running thread. -/
inductive Passes (tid : ThreadId) (entity : SchedEntity) (before : KernelState)
    (op : SchedulingOp) : Prop where
  /-- It is charged, and the clock starts again. -/
  | charged (charges : op.Charges before)
      (time : (op.resched before).timeOf tid =
        some (before.sched.timeAt (op.stopNs before) entity))
      (restarts : (op.resched before).running ≠ none →
        (op.resched before).runningSinceNs = op.startNs)
  /-- The thread keeps running. -/
  | kept (running : (op.resched before).running = before.sched.running)
      (since : (op.resched before).runningSinceNs = before.sched.runningSinceNs)
      (time : op.Charges before → (op.resched before).timeOf tid = some entity.vruntime)
  /-- Nobody charges it. -/
  | lost (time : (op.resched before).timeOf tid = some entity.vruntime)
      (exact : op.Charges before ↔
        before.sched.timeAt (op.stopNs before) entity = entity.vruntime)

section Step

variable {before : KernelState} {tid : ThreadId} {entity : SchedEntity}

/-- The demands of a syscall. -/
theorem demand_passes (runs : before.sched.running = some tid)
    (present : before.sched.entity tid = some entity) (caller : ThreadId) (op : SyscallOp)
    (nowNs laterNs : Nat) :
    Passes tid entity before (.syscall caller op nowNs laterNs) := by
  have time := Scheduler.timeOf_of_present present
  have charged := Scheduler.timeOf_account runs present nowNs
  have idle := Scheduler.running_account nowNs before.sched
  -- What a demand that takes the processor away uncharged comes to.
  have lost : ∀ demand, before.demands caller op = demand →
      ((demand.sched caller nowNs before.sched).timeOf tid = some entity.vruntime) →
      (DemandCharges caller before.sched nowNs laterNs demand ↔
        before.sched.Settled (demandStopNs caller before.sched nowNs laterNs demand)) →
      Passes tid entity before (.syscall caller op nowNs laterNs) := by
    intro demand demands same charges
    refine .lost ?_ ?_
    · rw [resched, demands, Scheduler.timeOf_runNext]
      exact same
    · rw [Charges, stopNs, demands, charges]
      exact Scheduler.settled_iff runs present _
  cases demands : before.demands caller op with
  | nothing =>
      refine .kept ?_ ?_ fun _ => ?_ <;> rw [resched, demands]
      · rfl
      · rfl
      · exact time
  | wake threads =>
      refine .kept ?_ ?_ fun _ => ?_ <;> rw [resched, demands]
      · exact Scheduler.running_setAllReady ..
      · exact Scheduler.since_setAllReady ..
      · exact (Scheduler.timeOf_setAllReady ..).trans time
  | charge =>
      refine .charged ?_ ?_ ?_
      · rw [Charges, demands]
        trivial
      · rw [resched, stopNs, demands, Scheduler.timeOf_runNext]
        exact charged
      · rw [resched, demands]
        exact Scheduler.since_runNext idle
  | sleep =>
      have stopped := Scheduler.running_setBlocked_of_idle idle caller
      refine .charged ?_ ?_ ?_
      · rw [Charges, demands]
        trivial
      · rw [resched, stopNs, demands, Scheduler.timeOf_runNext]
        exact (Scheduler.timeOf_setBlocked ..).trans charged
      · rw [resched, demands]
        exact Scheduler.since_runNext stopped
  | park =>
      have same : ((Demand.park).sched caller nowNs before.sched).timeOf tid =
          some entity.vruntime := (Scheduler.timeOf_setBlocked ..).trans time
      by_cases alone : before.sched.running ≠ some caller ∧ before.sched.AloneReady caller
      · have nobody := Scheduler.pickNext_setBlocked_eq_none_iff.2 alone.2
        refine .kept ?_ ?_ fun _ => ?_ <;> rw [resched, demands]
        · change (Scheduler.runNext (before.sched.setBlocked caller).pickNext _ _).running = _
          rw [nobody]
          exact Scheduler.running_setBlocked_of_ne alone.1
        · change (Scheduler.runNext (before.sched.setBlocked caller).pickNext _ _).runningSinceNs
            = _
          rw [nobody]
          exact Scheduler.since_setBlocked ..
        · rw [Scheduler.timeOf_runNext]
          exact same
      · refine lost _ demands same ?_
        unfold DemandCharges
        rw [or_iff_right alone]
  | handOver target =>
      refine lost _ demands ?_ Iff.rfl
      change ((before.sched.setReady target nowNs).setBlocked caller).timeOf tid = _
      rw [Scheduler.timeOf_setBlocked, Scheduler.timeOf_setReady, time]
  | answer target =>
      refine lost _ demands ?_ Iff.rfl
      change ((before.sched.setReady target nowNs).setReady caller nowNs).timeOf tid = _
      rw [Scheduler.timeOf_setReady, Scheduler.timeOf_setReady, time]

/-- Another thread exits while one runs. -/
theorem schedWithout_of_other {other : ThreadId} (runs : before.sched.running = some tid)
    (ne : tid ≠ other) (nowNs : Nat) :
    (KernelState.schedWithout other nowNs before.sched).running = before.sched.running ∧
      (KernelState.schedWithout other nowNs before.sched).runningSinceNs =
        before.sched.runningSinceNs ∧
      (KernelState.schedWithout other nowNs before.sched).timeOf tid =
        before.sched.timeOf tid := by
  have stays : before.sched.running ≠ some other := by
    rw [runs]
    exact fun same => ne (Option.some.inj same)
  refine ⟨?_, ?_, ?_⟩
  · rw [running_schedWithout, if_neg stays]
  · rw [KernelState.schedWithout, if_neg stays]
    rfl
  · rw [KernelState.schedWithout, if_neg stays, Scheduler.timeOf_remove_of_ne ne]

/-- The time of the running thread in one operation. -/
theorem passes (runs : before.sched.running = some tid)
    (present : before.sched.entity tid = some entity) {op : SchedulingOp}
    (alive : op.kills ≠ some tid) : Passes tid entity before op := by
  have time := Scheduler.timeOf_of_present present
  have charged := Scheduler.timeOf_account runs present
  have idle := fun nowNs => Scheduler.running_account nowNs before.sched
  cases op with
  | preemptTick nowNs =>
      exact .charged trivial ((Scheduler.timeOf_ticked ..).trans (charged nowNs))
        Scheduler.since_ticked
  | cooperativeYield nowNs =>
      exact .charged trivial ((Scheduler.timeOf_yielded ..).trans (charged nowNs))
        Scheduler.since_yielded
  | blockThread other nowNs =>
      exact .charged trivial ((Scheduler.timeOf_blockedOr ..).trans (charged nowNs))
        Scheduler.since_blockedOr
  | wakeBlocked other nowNs =>
      exact .kept (Scheduler.running_setReady ..) (Scheduler.since_setReady ..)
        fun _ => (Scheduler.timeOf_setReady ..).trans time
  | terminateThread other nowNs =>
      have ne : tid ≠ other := fun same => alive (congrArg some same.symm)
      obtain ⟨running, since, without⟩ := schedWithout_of_other runs ne nowNs
      rw [time] at without
      have later : (resched before (.terminateThread other nowNs)).timeOf tid =
          some entity.vruntime := (Scheduler.timeOf_runNext ..).trans without
      by_cases alone : before.sched.AloneReady other
      · have nobody := (pickNext_schedWithout_eq_none_iff other nowNs _).2 alone
        have same : resched before (.terminateThread other nowNs) =
            KernelState.schedWithout other nowNs before.sched := by
          rw [resched, nobody]
          rfl
        refine .kept ?_ ?_ fun _ => later
        · rw [same, running]
        · rw [same, since]
      · have stays : before.sched.running ≠ some other := by
          rw [runs]
          exact fun same => ne (Option.some.inj same)
        refine .lost later ?_
        rw [← Scheduler.settled_iff runs present]
        change _ ∨ _ ∨ _ ↔ _
        rw [or_iff_right stays, or_iff_right alone]
        rfl
  | terminateThreadAndHandoff other incoming nowNs =>
      have ne : tid ≠ other := fun same => alive (congrArg some same.symm)
      obtain ⟨running, since, without⟩ := schedWithout_of_other runs ne nowNs
      rw [time] at without
      have later : (resched before (.terminateThreadAndHandoff other incoming nowNs)).timeOf
          tid = some entity.vruntime := (Scheduler.timeOf_setRunning ..).trans without
      have switches := isSome_entity_schedWithout other incoming nowNs before.sched
      by_cases nowhere : incoming = other ∨ before.admitted incoming = false
      · have absent : (KernelState.schedWithout other nowNs before.sched).entity incoming =
            none := by
          rw [← Option.not_isSome_iff_eq_none, switches, not_and]
          intro notGone there
          rcases nowhere with same | unknown
          · exact notGone same
          · exact absurd there (by rw [← KernelState.admitted, unknown]; simp)
        have same : resched before (.terminateThreadAndHandoff other incoming nowNs) =
            KernelState.schedWithout other nowNs before.sched := by
          rw [resched, Scheduler.setRunning, absent]
        refine .kept ?_ ?_ fun _ => later
        · rw [same, running]
        · rw [same, since]
      · have stays : before.sched.running ≠ some other := by
          rw [runs]
          exact fun same => ne (Option.some.inj same)
        refine .lost later ?_
        rw [← Scheduler.settled_iff runs present]
        rw [not_or] at nowhere
        change _ ∨ _ ∨ _ ∨ _ ↔ _
        rw [or_iff_right stays, or_iff_right nowhere.1, or_iff_right nowhere.2]
        rfl
  | yieldToThread source target nowNs =>
      have stopped := Scheduler.running_setBlocked_of_idle (idle nowNs) source
      refine .charged trivial ?_ (Scheduler.since_setRunning stopped)
      exact (Scheduler.timeOf_setRunning ..).trans
        ((Scheduler.timeOf_setBlocked ..).trans (charged nowNs))
  | initUserThread other entry nowNs =>
      refine .kept (Scheduler.running_setReady ..) (Scheduler.since_setReady ..) ?_
      intro charges
      refine (Scheduler.timeOf_setReady ..).trans ?_
      by_cases inside : other < maxThreads
      · unfold Scheduler.timeOf
        rw [Scheduler.entity_setAdmitted inside]
        by_cases same : tid = other
        · rw [if_pos same]
          rcases charges with ne | fresh
          · exact absurd (same ▸ runs) ne
          · rw [← same, time, Option.some.injEq] at fresh
            rw [fresh]
            rfl
        · rw [if_neg same]
          exact time
      · rw [setAdmitted_outside (Nat.le_of_not_lt inside)]
        exact time
  | syscall caller op nowNs laterNs =>
      exact demand_passes runs present caller op nowNs laterNs

end Step

/-! ## Runs -/

/-- What every operation keeps of the accounts.  The kernel creates no chain group. -/
structure Timed (sched : KScheduler) : Prop where
  fits : sched.Fits
  present : ∀ tid, sched.running = some tid → (sched.entity tid).isSome
  groupless : sched.groups = .empty

theorem chargeGroup_groupless {sched : KScheduler} (groupless : sched.groups = .empty)
    (id : Option ChainGroupId) (increment : Nat) : sched.chargeGroup id increment = sched := by
  unfold Scheduler.chargeGroup
  cases id with
  | none => rfl
  | some id =>
      have absent : sched.group id = none := by
        rw [Scheduler.group, groupless]
        exact Slab.get?_empty id
      simp only [absent]

theorem groups_account_groupless {sched : KScheduler} (groupless : sched.groups = .empty)
    (nowNs : Nat) : (sched.account nowNs).groups = .empty := by
  cases runs : sched.running with
  | none =>
      rw [Scheduler.account, runs]
      exact groupless
  | some tid =>
      cases present : sched.entity tid with
      | none =>
          simp only [Scheduler.account, runs, present]
          exact groupless
      | some entity =>
          rw [Scheduler.groups_account runs present, chargeGroup_groupless groupless]
          exact groupless

theorem kept_timed : Kept Timed where
  account timed nowNs := {
    fits := timed.fits.account nowNs
    present := by simp
    groupless := groups_account_groupless timed.groupless nowNs }
  setReady timed tid nowNs := {
    fits := timed.fits.setReady tid nowNs
    present := by
      intro other runs
      rw [Scheduler.running_setReady] at runs
      rw [Scheduler.isSome_entity_setReady]
      exact timed.present other runs
    groupless := (Scheduler.groups_updateEntity ..).trans timed.groupless }
  setBlocked timed tid := {
    fits := timed.fits.setBlocked tid
    present := by
      intro other runs
      rw [Scheduler.isSome_entity_setBlocked]
      exact timed.present other (Scheduler.running_setBlocked runs).1
    groupless := (Scheduler.groups_setBlocked ..).trans timed.groupless }
  setRunning {sched} timed tid nowNs := {
    fits := timed.fits.setRunning tid nowNs
    present := by
      intro other runs
      have kept : ((sched.setRunning tid nowNs).entity other).isSome =
          (sched.entity other).isSome := by
        rw [Scheduler.entity_setRunning]
        split
        · rw [Option.isSome_map]
        · rfl
      rw [kept]
      rcases Scheduler.running_setRunning runs with before | ⟨rfl, admitted⟩
      · exact timed.present other before
      · exact admitted
    groupless := (Scheduler.groups_setRunning ..).trans timed.groupless }
  remove {sched} timed tid := {
    fits := timed.fits.remove tid
    present := by
      intro other runs
      change (if sched.running = some tid then none else sched.running) = some other at runs
      rw [Scheduler.entity_remove]
      split at runs
      · cases runs
      · next stays =>
          have ne : other ≠ tid := by
            rintro rfl
            exact stays runs
          rw [if_neg ne]
          exact timed.present other runs
    groupless := timed.groupless }
  setAdmitted {sched} timed tid := {
    fits := timed.fits.setAdmitted tid _ _ _
    present := by
      intro other runs
      have there := timed.present other runs
      by_cases inside : tid < maxThreads
      · rw [Scheduler.entity_setAdmitted inside]
        split
        · rfl
        · exact there
      · rw [setAdmitted_outside (Nat.le_of_not_lt inside)]
        exact there
    groupless := timed.groupless }

section Runs

variable {μ : Type} (hal : HalInterface μ)

theorem boots_timed {machine : Machine μ} (boots : machine.Boots) :
    Timed machine.kernel.sched := by
  have empty : Timed (.new interactiveQuantumNs) := {
    fits := by
      intro tid entity present
      simp [Scheduler.new, Scheduler.entity] at present
    present := by
      intro tid runs
      simp [Scheduler.new] at runs
    groupless := rfl }
  obtain ⟨kernel, fromBoot, same⟩ := boots
  obtain ⟨rootTid, scheduled⟩ := fromBoot.booted.scheduled
  have first : Timed kernel.sched := by
    rw [scheduled]
    exact kept_timed.setReady (kept_timed.setAdmitted empty rootTid) rootTid 0
  rcases same with rfl | ⟨base, len, installed⟩
  · exact first
  · rw [installed]
    exact first

theorem timed_of_reachable {admits : Machine μ → SchedulingOp → Prop} {machine : Machine μ}
    (reachable : (system hal).Reachable admits machine) : Timed machine.kernel.sched := by
  refine reachable.invariant (fun _ boots => boots_timed boots) ?_
  intro before op after _ timed taken
  rw [sched_of_step hal taken]
  exact kept_timed.resched timed op

theorem stopNs_le_startNs {op : SchedulingOp} (inOrder : op.InOrder) (before : KernelState) :
    op.stopNs before ≤ op.startNs := by
  cases op with
  | syscall caller op nowNs laterNs =>
      have ordered : nowNs ≤ laterNs := inOrder
      change demandStopNs .. ≤ laterNs
      unfold demandStopNs
      split
      · exact Nat.le_refl laterNs
      · split
        · exact ordered
        · exact Nat.le_refl laterNs
      · split
        · exact ordered
        · exact Nat.le_refl laterNs
      · exact ordered
  | _ => exact Nat.le_refl _

/-- Nothing is left of the account of a thread that was terminated. -/
theorem timeOf_killed {op : SchedulingOp} {tid : ThreadId} (killed : op.kills = some tid)
    {before : KernelState} : (op.resched before).timeOf tid = none := by
  have gone : ∀ nowNs, (KernelState.schedWithout tid nowNs before.sched).timeOf tid = none := by
    intro nowNs
    unfold Scheduler.timeOf KernelState.schedWithout
    rw [Scheduler.entity_remove, if_pos rfl]
    rfl
  cases op with
  | terminateThread other nowNs =>
      obtain rfl := Option.some.inj killed
      exact (Scheduler.timeOf_runNext ..).trans (gone nowNs)
  | terminateThreadAndHandoff other incoming nowNs =>
      obtain rfl := Option.some.inj killed
      exact (Scheduler.timeOf_setRunning ..).trans (gone nowNs)
  | _ => cases killed

/-- Since it started at `since`, the thread runs. -/
def Runs (tid : ThreadId) (since : Nat) (sched : KScheduler) : Prop :=
  sched.running = some tid ∧ sched.runningSinceNs = since

/-- The run time of a thread does not change while it runs. -/
theorem timeOf_of_runs {before : KernelState} {tid : ThreadId} {since : Nat}
    (timed : Timed before.sched) (runs : Runs tid since before.sched) {op : SchedulingOp}
    (inOrder : op.InOrder) (charges : op.Charges before)
    (still : Runs tid since (op.resched before)) :
    (op.resched before).timeOf tid = before.sched.timeOf tid := by
  obtain ⟨entity, present⟩ := Option.isSome_iff_exists.1 (timed.present tid runs.1)
  have time := Scheduler.timeOf_of_present present
  have alive : op.kills ≠ some tid := by
    intro killed
    have there := (kept_timed.resched timed op).present tid still.1
    rw [← Option.isSome_map (f := SchedEntity.vruntime)] at there
    change ((op.resched before).timeOf tid).isSome at there
    rw [timeOf_killed killed] at there
    cases there
  rw [time]
  cases passes runs.1 present alive with
  | charged _ charged restarts =>
      have restarted := restarts (by rw [still.1]; simp)
      rw [still.2] at restarted
      have early : op.stopNs before ≤ since := by
        rw [restarted]
        exact stopNs_le_startNs inOrder before
      have zero : op.stopNs before - before.sched.runningSinceNs = 0 := by
        have started := runs.2
        omega
      rw [charged, Scheduler.timeAt, zero, Option.some.injEq]
      exact (timed.fits tid entity present).charged_zero
  | kept _ _ same => exact same charges
  | lost same _ => exact same

/-- While the thread runs, its account stays as it was when it started. -/
structure Stint (tid : ThreadId) (since : Nat) (time : Option Nat) (sched : KScheduler) :
    Prop where
  timed : Timed sched
  kept : Runs tid since sched → sched.timeOf tid = time

theorem Stint.resched {before : KernelState} {tid : ThreadId} {since : Nat}
    {time : Option Nat} (stint : Stint tid since time before.sched)
    (runs : Runs tid since before.sched) {op : SchedulingOp} (inOrder : op.InOrder)
    (charges : op.Charges before) : Stint tid since time (op.resched before) where
  timed := kept_timed.resched stint.timed op
  kept still :=
    (timeOf_of_runs stint.timed runs inOrder charges still).trans (stint.kept runs)

/-- What a thread gets charged for the time from `since` until an operation takes the
processor from it. -/
structure ChargedFor (since : Nat) (op : SchedulingOp) (before : KernelState)
    (entity later : SchedEntity) (after : KScheduler) : Prop where
  thread : later.vruntime = (entity.charged (op.stopNs before - since)).vruntime
  group : after.groups =
    (before.sched.chargeGroup entity.chainGroup (later.vruntime - entity.vruntime)).groups

/-- A thread that starts to run, runs while operations lose no time, and then loses the
processor to an operation that does not terminate it, is charged exactly if this
operation loses no time either. -/
theorem charged_iff {start last after : Machine μ} {tid : ThreadId} {since : Nat}
    {op : SchedulingOp}
    (reachable : (system hal).Reachable TransitionSystem.anyStep start)
    (starts : Runs tid since start.kernel.sched)
    (run : (system hal).Reaches
      (fun machine op => Runs tid since machine.kernel.sched ∧ op.InOrder ∧
        op.Charges machine.kernel) start last)
    (runs : Runs tid since last.kernel.sched)
    (taken : (system hal).Step last op after) (alive : op.kills ≠ some tid)
    (stops : ¬ Runs tid since after.kernel.sched) :
    ∃ first entity later, start.kernel.sched.entity tid = some first ∧
      last.kernel.sched.entity tid = some entity ∧
      after.kernel.sched.entity tid = some later ∧
      entity.vruntime = first.vruntime ∧
      (ChargedFor since op last.kernel entity later after.kernel.sched ↔
        op.Charges last.kernel) := by
  have stint : Stint tid since (start.kernel.sched.timeOf tid) last.kernel.sched := by
    have first : Stint tid since (start.kernel.sched.timeOf tid) start.kernel.sched :=
      ⟨timed_of_reachable hal reachable, fun _ => rfl⟩
    let invariant := fun machine : Machine μ =>
      Stint tid since (start.kernel.sched.timeOf tid) machine.kernel.sched
    refine @TransitionSystem.Reaches.invariant _ _ _ _ invariant _ _ run first ?_
    intro before op after admitted stint taken
    change Stint tid since _ after.kernel.sched
    rw [sched_of_step hal taken]
    exact stint.resched admitted.1 admitted.2.1 admitted.2.2
  have timed := stint.timed
  have startTimed := timed_of_reachable hal reachable
  obtain ⟨first, firstPresent⟩ := Option.isSome_iff_exists.1 (startTimed.present tid starts.1)
  obtain ⟨entity, present⟩ := Option.isSome_iff_exists.1 (timed.present tid runs.1)
  have unchanged : entity.vruntime = first.vruntime := by
    have times := stint.kept runs
    rw [Scheduler.timeOf_of_present firstPresent, Scheduler.timeOf_of_present present,
      Option.some.injEq] at times
    exact times
  have sched := sched_of_step hal taken
  have groups : ∀ id increment, after.kernel.sched.groups =
      (last.kernel.sched.chargeGroup id increment).groups := by
    intro id increment
    rw [chargeGroup_groupless timed.groupless, timed.groupless, sched]
    exact (kept_timed.resched timed op).groupless
  have found : ∀ {time}, (op.resched last.kernel).timeOf tid = some time →
      ∃ later, after.kernel.sched.entity tid = some later ∧ later.vruntime = time := by
    intro time stored
    rw [← sched] at stored
    exact Option.map_eq_some_iff.1 stored
  have clock := runs.2
  cases passes runs.1 present alive with
  | charged charges time _ =>
      obtain ⟨later, laterPresent, laterTime⟩ := found time
      refine ⟨first, entity, later, firstPresent, present, laterPresent, unchanged, ?_⟩
      refine iff_of_true ⟨?_, groups _ _⟩ charges
      rw [laterTime, Scheduler.timeAt, clock]
  | kept running clockKept _ =>
      refine absurd ⟨?_, ?_⟩ stops
      · rw [sched, running]
        exact runs.1
      · rw [sched, clockKept]
        exact clock
  | lost time exact =>
      obtain ⟨later, laterPresent, laterTime⟩ := found time
      refine ⟨first, entity, later, firstPresent, present, laterPresent, unchanged, ?_⟩
      rw [exact, Scheduler.timeAt, clock]
      constructor
      · intro charged
        rw [← charged.thread]
        exact laterTime
      · intro due
        refine ⟨?_, groups _ _⟩
        rw [laterTime]
        exact due.symm

end Runs

/-! ## A small run -/

instance decidableSettled {NT NCG : Nat} (sched : Scheduler NT NCG) (nowNs : Nat) :
    Decidable (sched.Settled nowNs) :=
  match runs : sched.running with
  | none => isTrue fun tid entity runsOther => by
      rw [runs] at runsOther
      cases runsOther
  | some tid =>
      match present : sched.entity tid with
      | none => isTrue fun other entity runsOther presentOther => by
          rw [runs, Option.some.injEq] at runsOther
          rw [← runsOther, present] at presentOther
          cases presentOther
      | some _ => decidable_of_iff _ (Scheduler.settled_iff runs present nowNs).symm

instance decidableDemandCharges (caller : ThreadId) (sched : KScheduler)
    (nowNs laterNs : Nat) :
    (demand : Demand) → Decidable (DemandCharges caller sched nowNs laterNs demand)
  | .park =>
      inferInstanceAs (Decidable (_ ∧ sched.AloneReady caller ∨ sched.Settled _))
  | .handOver _ | .answer _ => inferInstanceAs (Decidable (sched.Settled _))
  | .nothing | .wake _ | .charge | .sleep => isTrue trivial

instance decidableCharges (state : KernelState) :
    (op : SchedulingOp) → Decidable (op.Charges state)
  | terminateThread tid nowNs =>
      inferInstanceAs (Decidable (_ ∨ state.sched.AloneReady tid ∨ state.sched.Settled nowNs))
  | terminateThreadAndHandoff tid incoming nowNs =>
      inferInstanceAs (Decidable
        (state.sched.running = some tid ∨ incoming = tid ∨ state.admitted incoming = false ∨
          state.sched.Settled nowNs))
  | initUserThread tid _ _ =>
      inferInstanceAs (Decidable
        (state.sched.running ≠ some tid ∨ state.sched.timeOf tid = some 0))
  | syscall caller op nowNs laterNs =>
      decidableDemandCharges caller state.sched nowNs laterNs (state.demands caller op)
  | preemptTick _ | cooperativeYield _ | blockThread _ _ | wakeBlocked _ _
  | yieldToThread _ _ _ => isTrue trivial

instance decidableInOrder : (op : SchedulingOp) → Decidable op.InOrder
  | syscall _ _ nowNs laterNs => inferInstanceAs (Decidable (nowNs ≤ laterNs))
  | preemptTick _ | cooperativeYield _ | blockThread _ _ | wakeBlocked _ _
  | terminateThread _ _ | terminateThreadAndHandoff _ _ _ | yieldToThread _ _ _
  | initUserThread _ _ _ => isTrue trivial

instance decidableRuns (tid : ThreadId) (since : Nat) (sched : KScheduler) :
    Decidable (Runs tid since sched) :=
  inferInstanceAs (Decidable (_ ∧ _))

/-- The machine at the first tick. -/
def tickedMachine : Machine Unit :=
  (next sampleMachine (.preemptTick 0)).getD sampleMachine

theorem next_tickedMachine : next sampleMachine (.preemptTick 0) = some tickedMachine := by
  have ticks : (next sampleMachine (.preemptTick 0)).isSome := by
    decide +kernel
  obtain ⟨machine, ticked⟩ := Option.isSome_iff_exists.1 ticks
  rw [tickedMachine, ticked]
  rfl

theorem tickedMachine_reachable :
    (system sampleHal).Reachable (fun _ op => op.InOrder) tickedMachine :=
  ⟨sampleMachine, sampleMachine_boots,
    .step (.refl _) (show InOrder (.preemptTick 0) from trivial) next_tickedMachine⟩

/-- The first thread starts a second one. -/
def startsSecond : List SchedulingOp :=
  [ .syscall 0 (.retype 0 .endpoint 1) 1 1,
    .syscall 0 (.retype 0 .threadControlBlock 1) 2 2,
    .initUserThread 1 4096 3 ]

/-- The machine after `startsSecond`. -/
def secondMachine : Machine Unit :=
  (TransitionSystem.runWhile next (fun machine op => Runs 0 0 machine.kernel.sched ∧
    op.InOrder ∧ op.Charges machine.kernel) startsSecond tickedMachine).getD tickedMachine

theorem secondMachine_reached :
    (system sampleHal).Reaches (fun machine op => Runs 0 0 machine.kernel.sched ∧
      op.InOrder ∧ op.Charges machine.kernel) tickedMachine secondMachine := by
  have ran : (TransitionSystem.runWhile next
      (fun machine op => Runs 0 0 machine.kernel.sched ∧ op.InOrder ∧
        op.Charges machine.kernel) startsSecond tickedMachine).isSome := by
    decide +kernel
  obtain ⟨machine, reached⟩ := Option.isSome_iff_exists.1 ran
  have same : secondMachine = machine := by
    rw [secondMachine, reached]
    rfl
  rw [same]
  exact (TransitionSystem.Reaches.runWhile (fun _ _ _ taken => taken) (.refl _)
    reached).mono fun _ _ admitted => of_decide_eq_true admitted

theorem charged_iff_sample :
    ∃ after first entity later, next secondMachine (.syscall 0 .yield 4000 4000) = some after ∧
      tickedMachine.kernel.sched.entity 0 = some first ∧
      secondMachine.kernel.sched.entity 0 = some entity ∧
      after.kernel.sched.entity 0 = some later ∧
      entity.vruntime = first.vruntime ∧
      ChargedFor 0 (.syscall 0 .yield 4000 4000) secondMachine.kernel entity later
        after.kernel.sched := by
  have yields : (next secondMachine (.syscall 0 .yield 4000 4000)).any (fun after =>
      ¬ Runs 0 0 after.kernel.sched) := by
    decide +kernel
  obtain ⟨after, yielded, stops⟩ := (Option.any_eq_true _ _).1 yields
  have starts : Runs 0 0 tickedMachine.kernel.sched := by decide +kernel
  have runs : Runs 0 0 secondMachine.kernel.sched := by decide +kernel
  have charges : Charges secondMachine.kernel (.syscall 0 .yield 4000 4000) := by
    decide +kernel
  obtain ⟨first, entity, later, firstThere, there, laterThere, same, exact⟩ :=
    charged_iff sampleHal (tickedMachine_reachable.mono fun _ _ _ => trivial) starts secondMachine_reached runs yielded
      (by decide) (of_decide_eq_true stops)
  exact ⟨after, first, entity, later, yielded, firstThere, there, laterThere, same,
    exact.2 charges⟩

/-- A thread that waits for a reply is not charged for the time before its `Call`. -/
theorem call_goes_uncharged :
    ¬ ∀ (start last after : Machine Unit) (tid since : Nat) (caller : ThreadId)
        (op : SyscallOp) (nowNs laterNs : Nat),
      (system sampleHal).Reachable (fun _ op => op.InOrder) start →
      Runs tid since start.kernel.sched →
      (system sampleHal).Reaches
        (fun machine op => Runs tid since machine.kernel.sched ∧ op.InOrder) start last →
      Runs tid since last.kernel.sched → nowNs ≤ laterNs →
      (system sampleHal).Step last (.syscall caller op nowNs laterNs) after →
      after.kernel.sched.running ≠ some tid →
      ∀ first later, start.kernel.sched.entity tid = some first →
        after.kernel.sched.entity tid = some later →
        later.vruntime = (first.charged (nowNs - since)).vruntime := by
  intro claimed
  have calls : (next secondMachine (.syscall 0 (.call 2 (.new 7)) 4000 4000)).any
      (fun after => after.kernel.sched.running ≠ some 0 ∧
        (after.kernel.sched.entity 0).any fun later =>
          (tickedMachine.kernel.sched.entity 0).any fun first =>
            later.vruntime ≠ (first.charged 4000).vruntime) := by
    decide +kernel
  obtain ⟨after, called, broken⟩ := (Option.any_eq_true _ _).1 calls
  obtain ⟨stops, broken⟩ := of_decide_eq_true broken
  obtain ⟨later, laterThere, broken⟩ := (Option.any_eq_true _ _).1 broken
  obtain ⟨first, firstThere, broken⟩ := (Option.any_eq_true _ _).1 broken
  have starts : Runs 0 0 tickedMachine.kernel.sched := by decide +kernel
  have runs : Runs 0 0 secondMachine.kernel.sched := by decide +kernel
  have run := secondMachine_reached.mono fun machine op admitted =>
    (⟨admitted.1, admitted.2.1⟩ : Runs 0 0 machine.kernel.sched ∧ op.InOrder)
  exact of_decide_eq_true broken
    (claimed tickedMachine secondMachine after 0 0 0 (.call 2 (.new 7)) 4000 4000
      tickedMachine_reachable starts run runs (Nat.le_refl 4000) called stops first later firstThere laterThere)

end SchedulingOp

end Simurgh
