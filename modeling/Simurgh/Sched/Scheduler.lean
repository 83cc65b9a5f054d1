import Simurgh.Cap.Rights
import Simurgh.Lib.Exec
import Simurgh.Lib.Slab
import Simurgh.Sched.Weight

/-!
# The scheduler

One entity for each admitted thread, and an account of virtual run time for each
IPC chain.  A kernel charges the running thread, picks a successor, and commits
to it with `dispatch`.
-/

namespace Simurgh

/-! ## Chain groups -/

/-- Threads in one synchronous IPC chain. -/
def maxChainMembers : Nat := 8

/-- The threads of one IPC chain and the run time charged to them together. -/
structure ChainGroup where
  id : ChainGroupId
  memberThreads : List ThreadId
  groupVruntime : Nat
  deriving DecidableEq, Repr

def ChainGroup.charge (group : ChainGroup) (increment : Nat) : ChainGroup :=
  { group with groupVruntime := saturatingAdd group.groupVruntime increment }

inductive ChainGroupError where
  | full
  | notAMember
  deriving DecidableEq, Repr

/-! ## Entities -/

inductive SchedulerMode where
  | interactive
  | throughput
  deriving DecidableEq, Repr

/-- Interactive threads sort before throughput threads. -/
def SchedulerMode.preferenceClass : SchedulerMode → Nat
  | interactive => 0
  | throughput => 1

inductive RunState where
  | ready
  | running
  | blocked
  deriving DecidableEq, Repr

inductive SchedError where
  | tableFull
  | noSuchThread
  | noSuchGroup
  | groupTableFull
  | chainGroup (error : ChainGroupError)
  deriving DecidableEq, Repr

/-- Scheduling state of one thread.  Priorities are clamped to `maxPriority`. -/
structure SchedEntity where
  thread : ThreadId
  mode : SchedulerMode
  basePriority : Fin (maxPriority + 1)
  effectivePriority : Fin (maxPriority + 1)
  baseWeightFp : Nat
  vruntime : Nat
  chainGroup : Option ChainGroupId
  state : RunState
  becameReadyNs : Nat
  lastWaitMs : Nat
  numaLocal : Bool
  deriving DecidableEq, Repr

/-- `priority.min(MAX_PRIORITY)`. -/
def clampPriority (priority : Nat) : Fin (maxPriority + 1) :=
  ⟨min priority maxPriority, Nat.lt_succ_of_le (Nat.min_le_right ..)⟩

namespace SchedEntity

def new (thread : ThreadId) (mode : SchedulerMode) (priority : Nat)
    (group : Option ChainGroupId) : SchedEntity where
  thread := thread
  mode := mode
  basePriority := clampPriority priority
  effectivePriority := clampPriority priority
  baseWeightFp := basePriorityWeightFp (clampPriority priority)
  vruntime := 0
  chainGroup := group
  state := .blocked
  becameReadyNs := 0
  lastWaitMs := 0
  numaLocal := false

/-- The entity after its run slice was charged. -/
def charged (entity : SchedEntity) (ranNs : Nat) : SchedEntity :=
  { entity with
    vruntime := vruntimeNext entity.vruntime ranNs
      (effectiveWeightFp entity.baseWeightFp entity.lastWaitMs entity.numaLocal) }

end SchedEntity

/-! ## The scheduler -/

structure Scheduler (NT NCG : Nat) where
  entities : Slab SchedEntity NT
  groups : Slab ChainGroup NCG
  running : Option ThreadId
  runningSinceNs : Nat
  quantumNs : Nat
  deriving DecidableEq, Repr

namespace Scheduler

variable {NT NCG : Nat}

def new (quantumNs : Nat) : Scheduler NT NCG where
  entities := .empty
  groups := .empty
  running := none
  runningSinceNs := 0
  quantumNs := quantumNs

def entity (sched : Scheduler NT NCG) (thread : ThreadId) : Option SchedEntity :=
  sched.entities.get? thread

def group (sched : Scheduler NT NCG) (id : ChainGroupId) : Option ChainGroup :=
  sched.groups.get? id

/-- Register a thread, blocked. -/
def admitThread (thread : ThreadId) (mode : SchedulerMode) (priority : Nat)
    (group : Option ChainGroupId) : Exec (Scheduler NT NCG) SchedError Unit := do
  Exec.guard (thread < NT) .tableFull
  Exec.modify fun sched =>
    { sched with
      entities := sched.entities.put thread (.new thread mode priority group) }

/-- Forget a thread. -/
def remove (thread : ThreadId) (sched : Scheduler NT NCG) : Scheduler NT NCG :=
  { sched with
    entities := sched.entities.clear thread
    running := if sched.running = some thread then none else sched.running }

/-- Make a thread `Ready`. -/
def noteReady (thread : ThreadId) (nowNs : Nat) :
    Exec (Scheduler NT NCG) SchedError Unit := do
  let sched ← Exec.get
  let entity ← Exec.okOr .noSuchThread (sched.entity thread)
  Exec.modify fun sched =>
    { sched with
      entities := sched.entities.put thread
        { entity with state := .ready, becameReadyNs := nowNs } }

/-- Make a thread `Blocked`.  If it was running, nothing runs any more. -/
def noteBlocked (thread : ThreadId) : Exec (Scheduler NT NCG) SchedError Unit := do
  let sched ← Exec.get
  let entity ← Exec.okOr .noSuchThread (sched.entity thread)
  Exec.modify fun sched =>
    { sched with
      entities := sched.entities.put thread { entity with state := .blocked }
      running := if sched.running = some thread then none else sched.running }

/-- Charge `increment` to a chain group that exists. -/
def chargeGroup (sched : Scheduler NT NCG) (id : Option ChainGroupId)
    (increment : Nat) : Scheduler NT NCG :=
  match id with
  | none => sched
  | some id =>
      match sched.group id with
      | none => sched
      | some group =>
          { sched with groups := sched.groups.put id (group.charge increment) }

/-- Charge the running thread and return it to `Ready`, unless it was blocked
meanwhile.  Nothing runs afterwards. -/
def account (nowNs : Nat) (sched : Scheduler NT NCG) : Scheduler NT NCG :=
  match sched.running with
  | none => sched
  | some cur =>
      match sched.entity cur with
      | none => { sched with running := none }
      | some entity =>
          let charged := entity.charged (nowNs - sched.runningSinceNs)
          let returned :=
            if charged.state = .running then
              { charged with state := .ready, becameReadyNs := nowNs }
            else charged
          let stored := { sched with entities := sched.entities.put cur returned }
          { stored.chargeGroup entity.chainGroup (charged.vruntime - entity.vruntime)
            with running := none }

/-- What `pickNext` minimises.  The parts are compared from left to right. -/
structure PickKey where
  preferenceClass : Nat
  priorityKey : Nat
  effectiveVruntime : Nat
  thread : ThreadId
  deriving DecidableEq, Repr

def PickKey.lt (left right : PickKey) : Bool :=
  if left.preferenceClass ≠ right.preferenceClass then
    left.preferenceClass < right.preferenceClass
  else if left.priorityKey ≠ right.priorityKey then
    left.priorityKey < right.priorityKey
  else if left.effectiveVruntime ≠ right.effectiveVruntime then
    left.effectiveVruntime < right.effectiveVruntime
  else left.thread < right.thread

/-- The selection key of an entity. -/
def pickKey (sched : Scheduler NT NCG) (entity : SchedEntity) : PickKey where
  preferenceClass := entity.mode.preferenceClass
  priorityKey :=
    match entity.mode with
    | .interactive => maxPriority - entity.effectivePriority
    | .throughput => 0
  effectiveVruntime :=
    match entity.mode, entity.chainGroup with
    | .throughput, some id =>
        match sched.group id with
        | some group => group.groupVruntime
        | none => entity.vruntime
    | _, _ => entity.vruntime
  thread := entity.thread

/-- One round of the selection loop. -/
def pickStep (sched : Scheduler NT NCG) (best : Option PickKey)
    (entity : SchedEntity) : Option PickKey :=
  if entity.state ≠ .ready then best
  else
    match best with
    | none => some (sched.pickKey entity)
    | some key =>
        if (sched.pickKey entity).lt key then some (sched.pickKey entity) else best

/-- The `Ready` thread with the least key. -/
def pickNext (sched : Scheduler NT NCG) : Option ThreadId :=
  (sched.entities.objects.foldl sched.pickStep none).map PickKey.thread

/-- Commit to a thread. -/
def dispatch (thread : ThreadId) (nowNs : Nat) :
    Exec (Scheduler NT NCG) SchedError Unit := do
  let sched ← Exec.get
  let entity ← Exec.okOr .noSuchThread (sched.entity thread)
  Exec.modify fun sched =>
    { sched with
      entities := sched.entities.put thread
        { entity with
          lastWaitMs := (nowNs - entity.becameReadyNs) / 1000000
          state := .running }
      running := some thread
      runningSinceNs := nowNs }

end Scheduler

end Simurgh
