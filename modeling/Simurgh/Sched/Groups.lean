import Simurgh.Sched.Spec

/-!
# Chain groups and priorities

The calls of the scheduler that change the members of a chain group, or the priority of
a thread.  With these the list of its public calls is complete.
-/

namespace Simurgh

/-! ## Members -/

namespace ChainGroup

def new (id : ChainGroupId) : ChainGroup where
  id := id
  memberThreads := []
  groupVruntime := 0

def isEmpty (group : ChainGroup) : Bool := group.memberThreads.isEmpty

/-- A thread that is a member already is not added again. -/
def addMember (thread : ThreadId) (group : ChainGroup) :
    Except ChainGroupError ChainGroup :=
  if thread ∈ group.memberThreads then .ok group
  else if maxChainMembers ≤ group.memberThreads.length then .error .full
  else .ok { group with memberThreads := group.memberThreads ++ [thread] }

def removeMember (thread : ThreadId) (group : ChainGroup) :
    Except ChainGroupError ChainGroup :=
  if thread ∈ group.memberThreads then
    .ok { group with memberThreads := group.memberThreads.erase thread }
  else .error .notAMember

/-- Nobody is charged for joining. -/
theorem groupVruntime_addMember {thread : ThreadId} {group later : ChainGroup}
    (added : group.addMember thread = .ok later) :
    later.groupVruntime = group.groupVruntime := by
  unfold addMember at added
  split at added
  · rw [Except.ok.inj added]
  · split at added
    · cases added
    · rw [← Except.ok.inj added]

/-- The group that is left when the thread has gone, if it was there. -/
def without (thread : ThreadId) (group : ChainGroup) : ChainGroup :=
  match group.removeMember thread with
  | .ok later => later
  | .error _ => group

@[simp]
theorem groupVruntime_without (thread : ThreadId) (group : ChainGroup) :
    (group.without thread).groupVruntime = group.groupVruntime := by
  unfold without removeMember
  by_cases member : thread ∈ group.memberThreads
  · simp [member]
  · simp [member]

end ChainGroup

namespace Scheduler

variable {NT NCG : Nat}

/-! ## Priorities -/

/-- Rewrite the entity of a thread that has to have one. -/
def onEntity (thread : ThreadId) (update : SchedEntity → SchedEntity) :
    Exec (Scheduler NT NCG) SchedError Unit := do
  let sched ← Exec.get
  let entity ← Exec.okOr .noSuchThread (sched.entity thread)
  Exec.modify fun sched =>
    { sched with entities := sched.entities.put thread (update entity) }

def setNumaLocal (thread : ThreadId) (isLocal : Bool) :
    Exec (Scheduler NT NCG) SchedError Unit :=
  onEntity thread fun entity => { entity with numaLocal := isLocal }

/-- The holder of a resource runs with the priority of the thread that waits for it. -/
def inheritPriority (holder : ThreadId) (donorPriority : Nat) :
    Exec (Scheduler NT NCG) SchedError Unit :=
  onEntity holder fun entity =>
    { entity with
      effectivePriority :=
        if entity.effectivePriority < clampPriority donorPriority then
          clampPriority donorPriority
        else entity.effectivePriority }

def restorePriority (holder : ThreadId) : Exec (Scheduler NT NCG) SchedError Unit :=
  onEntity holder fun entity => { entity with effectivePriority := entity.basePriority }

/-! ## Groups -/

def createGroup (id : ChainGroupId) : Exec (Scheduler NT NCG) SchedError Unit := do
  Exec.guard (id < NCG) .groupTableFull
  Exec.modify fun sched => { sched with groups := sched.groups.put id (.new id) }

/-- The thread becomes a member before it is known to have an entity. -/
def joinGroup (thread : ThreadId) (id : ChainGroupId) :
    Exec (Scheduler NT NCG) SchedError Unit := do
  let sched ← Exec.get
  let group ← Exec.okOr .noSuchGroup (sched.group id)
  match group.addMember thread with
  | .error error => Exec.throw (.chainGroup error)
  | .ok joined => do
      Exec.modify fun sched => { sched with groups := sched.groups.put id joined }
      onEntity thread fun entity => { entity with chainGroup := some id }

/-- Take a thread out of a group that exists.  An empty group is recycled. -/
def dropMember (thread : ThreadId) (id : ChainGroupId) (sched : Scheduler NT NCG) :
    Scheduler NT NCG :=
  match sched.group id with
  | none => sched
  | some group =>
      { sched with
        groups :=
          if (group.without thread).isEmpty then sched.groups.clear id
          else sched.groups.put id (group.without thread) }

def leaveGroup (thread : ThreadId) : Exec (Scheduler NT NCG) SchedError Unit := do
  let sched ← Exec.get
  match (sched.entity thread).bind SchedEntity.chainGroup with
  | none => return ()
  | some id => do
      Exec.modify (dropMember thread id)
      onEntity thread fun entity => { entity with chainGroup := none }

/-! ## All calls -/

/-- The public calls that change a scheduler. -/
inductive Call where
  | admitThread (thread : ThreadId) (mode : SchedulerMode) (priority : Nat)
      (group : Option ChainGroupId)
  | remove (thread : ThreadId)
  | noteReady (thread : ThreadId) (nowNs : Nat)
  | noteBlocked (thread : ThreadId)
  | setNumaLocal (thread : ThreadId) (isLocal : Bool)
  | inheritPriority (holder : ThreadId) (donorPriority : Nat)
  | restorePriority (holder : ThreadId)
  | createGroup (id : ChainGroupId)
  | joinGroup (thread : ThreadId) (id : ChainGroupId)
  | leaveGroup (thread : ThreadId)
  | account (nowNs : Nat)
  | dispatch (thread : ThreadId) (nowNs : Nat)
  deriving DecidableEq, Repr

def Call.exec : Call → Exec (Scheduler NT NCG) SchedError Unit
  | admitThread thread mode priority group =>
      Scheduler.admitThread thread mode priority group
  | remove thread => Exec.modify (Scheduler.remove thread)
  | noteReady thread nowNs => Scheduler.noteReady thread nowNs
  | noteBlocked thread => Scheduler.noteBlocked thread
  | setNumaLocal thread isLocal => Scheduler.setNumaLocal thread isLocal
  | inheritPriority holder donorPriority => Scheduler.inheritPriority holder donorPriority
  | restorePriority holder => Scheduler.restorePriority holder
  | createGroup id => Scheduler.createGroup id
  | joinGroup thread id => Scheduler.joinGroup thread id
  | leaveGroup thread => Scheduler.leaveGroup thread
  | account nowNs => Exec.modify (Scheduler.account nowNs)
  | dispatch thread nowNs => Scheduler.dispatch thread nowNs

/-- What a call leaves behind, whether it fails or not. -/
def Call.perform (call : Call) (sched : Scheduler NT NCG) : Scheduler NT NCG :=
  (call.exec sched).state?.getD sched

/-- Make calls one after another. -/
def perform (sched : Scheduler NT NCG) (calls : List Call) : Scheduler NT NCG :=
  calls.foldl (fun sched call => call.perform sched) sched

@[simp]
theorem perform_nil (sched : Scheduler NT NCG) : sched.perform [] = sched := rfl

@[simp]
theorem perform_cons (sched : Scheduler NT NCG) (call : Call) (rest : List Call) :
    sched.perform (call :: rest) = (call.perform sched).perform rest := rfl

theorem perform_append (sched : Scheduler NT NCG) (first second : List Call) :
    sched.perform (first ++ second) = (sched.perform first).perform second :=
  List.foldl_append

/-! ## What the calls do -/

section Spec

variable {sched : Scheduler NT NCG}

theorem onEntity_state (thread : ThreadId) (update : SchedEntity → SchedEntity)
    (sched : Scheduler NT NCG) :
    (onEntity thread update sched).state? = some (sched.updateEntity thread update) := by
  cases present : sched.entity thread with
  | none => simp [onEntity, updateEntity, present]
  | some entity => simp [onEntity, updateEntity, present]

theorem Call.perform_of_state (call : Call) {later : Scheduler NT NCG}
    (ended : (call.exec sched).state? = some later) : call.perform sched = later := by
  unfold Call.perform
  rw [ended]
  rfl

theorem createGroup_state (id : ChainGroupId) (sched : Scheduler NT NCG) :
    (createGroup id sched).state? =
      some { sched with groups := sched.groups.put id (.new id) } := by
  by_cases inside : id < NCG
  · simp [createGroup, Exec.guard, inside]
  · have outside : sched.groups.put id (.new id) = sched.groups := by
      unfold Slab.put
      rw [Vector.setIfInBounds_eq_of_size_le (Nat.le_of_not_lt inside)]
    simp [createGroup, Exec.guard, inside, outside]

/-- `joinGroup` as an update. -/
def setJoined (thread : ThreadId) (id : ChainGroupId) (sched : Scheduler NT NCG) :
    Scheduler NT NCG :=
  match sched.group id with
  | none => sched
  | some group =>
      match group.addMember thread with
      | .error _ => sched
      | .ok joined =>
          updateEntity thread (fun entity => { entity with chainGroup := some id })
            { sched with groups := sched.groups.put id joined }

theorem joinGroup_state (thread : ThreadId) (id : ChainGroupId) (sched : Scheduler NT NCG) :
    (joinGroup thread id sched).state? = some (sched.setJoined thread id) := by
  unfold joinGroup setJoined
  rw [Exec.get_bind_run]
  cases present : sched.group id with
  | none => rfl
  | some group =>
      rw [Exec.okOr_some, Exec.pure_bind_run]
      cases added : group.addMember thread with
      | error error => simp only [added, Exec.throw_run, Outcome.state?_err]
      | ok joined =>
          simp only [added, Exec.modify_bind_run]
          exact onEntity_state ..

/-- `leaveGroup` as an update. -/
def setLeft (thread : ThreadId) (sched : Scheduler NT NCG) : Scheduler NT NCG :=
  match (sched.entity thread).bind SchedEntity.chainGroup with
  | none => sched
  | some id =>
      (sched.dropMember thread id).updateEntity thread fun entity =>
        { entity with chainGroup := none }

theorem leaveGroup_state (thread : ThreadId) (sched : Scheduler NT NCG) :
    (leaveGroup thread sched).state? = some (sched.setLeft thread) := by
  unfold leaveGroup setLeft
  rw [Exec.get_bind_run]
  cases present : (sched.entity thread).bind SchedEntity.chainGroup with
  | none => rfl
  | some id => exact onEntity_state thread _ (sched.dropMember thread id)

@[simp]
theorem groups_updateEntity (thread : ThreadId) (update : SchedEntity → SchedEntity)
    (sched : Scheduler NT NCG) :
    (sched.updateEntity thread update).groups = sched.groups := by
  unfold updateEntity
  cases sched.entity thread with
  | none => rfl
  | some entity => rfl

@[simp]
theorem entities_dropMember (thread : ThreadId) (id : ChainGroupId)
    (sched : Scheduler NT NCG) : (sched.dropMember thread id).entities = sched.entities := by
  unfold dropMember
  cases sched.group id with
  | none => rfl
  | some group => rfl

@[simp]
theorem entity_dropMember (thread : ThreadId) (id : ChainGroupId) (sched : Scheduler NT NCG)
    (other : ThreadId) : (sched.dropMember thread id).entity other = sched.entity other := by
  rw [entity, entities_dropMember, entity]

/-- A group that survives the departure of a member keeps its account. -/
theorem group_dropMember {thread : ThreadId} {id other : ChainGroupId} {later : ChainGroup}
    (present : (sched.dropMember thread id).group other = some later) :
    ∃ group, sched.group other = some group ∧
      later.groupVruntime = group.groupVruntime := by
  unfold dropMember at present
  cases there : sched.group id with
  | none =>
      rw [there] at present
      exact ⟨later, present, rfl⟩
  | some group =>
      rw [there] at present
      change (if _ then _ else _ : Slab ChainGroup NCG).get? other = some later at present
      split at present
      · rw [Slab.get?_clear] at present
        split at present
        · cases present
        · exact ⟨later, present, rfl⟩
      · rw [Slab.get?_put_of_some there] at present
        split at present
        · next same =>
            rw [← Option.some.inj present, ChainGroup.groupVruntime_without]
            exact ⟨group, same ▸ there, rfl⟩
        · exact ⟨later, present, rfl⟩

end Spec

end Scheduler

end Simurgh
