import Simurgh.Sched.Scheduler

/-!
# What the scheduler's calls do

Each call of the scheduler is a pure update.  Most results below speak of the
run state of every thread and of the thread that runs, and of nothing else.
-/

namespace Simurgh

namespace Scheduler

variable {NT NCG : Nat}

/-! ## The calls as updates -/

/-- Rewrite the entity of a thread that has one. -/
def updateEntity (thread : ThreadId) (update : SchedEntity → SchedEntity)
    (sched : Scheduler NT NCG) : Scheduler NT NCG :=
  match sched.entity thread with
  | none => sched
  | some entity =>
      { sched with entities := sched.entities.put thread (update entity) }

/-- `noteReady` as an update. -/
def setReady (thread : ThreadId) (nowNs : Nat) (sched : Scheduler NT NCG) :
    Scheduler NT NCG :=
  sched.updateEntity thread fun entity =>
    { entity with state := .ready, becameReadyNs := nowNs }

/-- `noteBlocked` as an update. -/
def setBlocked (thread : ThreadId) (sched : Scheduler NT NCG) : Scheduler NT NCG :=
  match sched.entity thread with
  | none => sched
  | some _ =>
      { sched.updateEntity thread fun entity => { entity with state := .blocked } with
        running := if sched.running = some thread then none else sched.running }

/-- `dispatch` as an update. -/
def setRunning (thread : ThreadId) (nowNs : Nat) (sched : Scheduler NT NCG) :
    Scheduler NT NCG :=
  match sched.entity thread with
  | none => sched
  | some _ =>
      { sched.updateEntity thread fun entity =>
          { entity with
            lastWaitMs := (nowNs - entity.becameReadyNs) / 1000000
            state := .running } with
        running := some thread
        runningSinceNs := nowNs }

theorem noteReady_of_some {thread : ThreadId} {sched : Scheduler NT NCG}
    (admitted : (sched.entity thread).isSome) (nowNs : Nat) :
    noteReady thread nowNs sched = .ok () (sched.setReady thread nowNs) := by
  obtain ⟨entity, present⟩ := Option.isSome_iff_exists.1 admitted
  simp [noteReady, setReady, updateEntity, present]

theorem noteReady_of_none {thread : ThreadId} {sched : Scheduler NT NCG}
    (absent : sched.entity thread = none) (nowNs : Nat) :
    noteReady thread nowNs sched = .err .noSuchThread sched := by
  simp [noteReady, absent]

theorem noteReady_state (thread : ThreadId) (nowNs : Nat) (sched : Scheduler NT NCG) :
    (noteReady thread nowNs sched).state? = some (sched.setReady thread nowNs) := by
  cases present : sched.entity thread with
  | none => simp [noteReady_of_none present, setReady, updateEntity, present]
  | some entity => rw [noteReady_of_some (by simp [present]), Outcome.state?_ok]

theorem noteBlocked_state (thread : ThreadId) (sched : Scheduler NT NCG) :
    (noteBlocked thread sched).state? = some (sched.setBlocked thread) := by
  cases present : sched.entity thread with
  | none => simp [noteBlocked, setBlocked, present]
  | some entity => simp [noteBlocked, setBlocked, updateEntity, present]

theorem dispatch_state (thread : ThreadId) (nowNs : Nat) (sched : Scheduler NT NCG) :
    (dispatch thread nowNs sched).state? = some (sched.setRunning thread nowNs) := by
  cases present : sched.entity thread with
  | none => simp [dispatch, setRunning, present]
  | some entity => simp [dispatch, setRunning, updateEntity, present]

/-! ## Run states -/

/-- The run state of a thread that was admitted. -/
def runState (sched : Scheduler NT NCG) (thread : ThreadId) : Option RunState :=
  (sched.entity thread).map SchedEntity.state

/-- Every entity sits at the index of its own thread. -/
def ThreadsMatch (sched : Scheduler NT NCG) : Prop :=
  ∀ i entity, sched.entity i = some entity → entity.thread = i

theorem entity_updateEntity (thread : ThreadId) (update : SchedEntity → SchedEntity)
    (sched : Scheduler NT NCG) (other : ThreadId) :
    (sched.updateEntity thread update).entity other =
      if other = thread then (sched.entity other).map update
      else sched.entity other := by
  unfold updateEntity
  cases present : sched.entity thread with
  | none =>
      by_cases same : other = thread
      · simp [same, present]
      · simp [same]
  | some entity =>
      change (sched.entities.put thread (update entity)).get? other = _
      rw [Slab.get?_put_of_some present]
      by_cases same : other = thread
      · simp [same, present]
      · rw [if_neg (Ne.symm same), if_neg same]
        rfl

@[simp]
theorem running_updateEntity (thread : ThreadId) (update : SchedEntity → SchedEntity)
    (sched : Scheduler NT NCG) :
    (sched.updateEntity thread update).running = sched.running := by
  unfold updateEntity
  cases sched.entity thread with
  | none => rfl
  | some entity => rfl

/-- An update of one entity that keeps its thread. -/
theorem ThreadsMatch.of_entity {sched later : Scheduler NT NCG}
    (threadsMatch : sched.ThreadsMatch) {thread : ThreadId}
    {update : SchedEntity → SchedEntity}
    (entities : ∀ i, later.entity i =
      if i = thread then (sched.entity i).map update else sched.entity i)
    (keeps : ∀ entity, (update entity).thread = entity.thread) : later.ThreadsMatch := by
  intro i entity present
  rw [entities] at present
  by_cases same : i = thread
  · rw [if_pos same, Option.map_eq_some_iff] at present
    obtain ⟨old, there, rfl⟩ := present
    rw [keeps]
    exact threadsMatch i old there
  · rw [if_neg same] at present
    exact threadsMatch i entity present

/-! ## `setReady` -/

theorem runState_setReady (thread : ThreadId) (nowNs : Nat) (sched : Scheduler NT NCG)
    (other : ThreadId) :
    (sched.setReady thread nowNs).runState other =
      if other = thread then (sched.runState other).map fun _ => .ready
      else sched.runState other := by
  unfold runState setReady
  rw [entity_updateEntity]
  by_cases same : other = thread
  · simp [same, Function.comp_def]
  · simp [same]

@[simp]
theorem running_setReady (thread : ThreadId) (nowNs : Nat) (sched : Scheduler NT NCG) :
    (sched.setReady thread nowNs).running = sched.running :=
  running_updateEntity ..

theorem ThreadsMatch.setReady {sched : Scheduler NT NCG}
    (threadsMatch : sched.ThreadsMatch) (thread : ThreadId) (nowNs : Nat) :
    (sched.setReady thread nowNs).ThreadsMatch :=
  threadsMatch.of_entity (entity_updateEntity thread _ sched) fun _ => rfl

/-- Several threads become ready, one after another. -/
def setAllReady (nowNs : Nat) (threads : List ThreadId) (sched : Scheduler NT NCG) :
    Scheduler NT NCG :=
  threads.foldl (fun sched thread => sched.setReady thread nowNs) sched

theorem runState_setAllReady (nowNs : Nat) (threads : List ThreadId)
    (sched : Scheduler NT NCG) (other : ThreadId) :
    (sched.setAllReady nowNs threads).runState other =
      if other ∈ threads then (sched.runState other).map fun _ => .ready
      else sched.runState other := by
  induction threads generalizing sched with
  | nil => rfl
  | cons thread rest ih =>
      change ((sched.setReady thread nowNs).setAllReady nowNs rest).runState other = _
      rw [ih, runState_setReady]
      by_cases same : other = thread
      · subst same
        simp [Function.comp_def]
      · simp [same]

@[simp]
theorem running_setAllReady (nowNs : Nat) (threads : List ThreadId)
    (sched : Scheduler NT NCG) :
    (sched.setAllReady nowNs threads).running = sched.running := by
  induction threads generalizing sched with
  | nil => rfl
  | cons thread rest ih =>
      exact (ih _).trans (running_setReady ..)

/-! ## `setBlocked` -/

theorem entity_setBlocked (thread : ThreadId) (sched : Scheduler NT NCG)
    (other : ThreadId) :
    (sched.setBlocked thread).entity other =
      if other = thread then
        (sched.entity other).map fun entity => { entity with state := .blocked }
      else sched.entity other := by
  unfold setBlocked
  cases present : sched.entity thread with
  | none =>
      by_cases same : other = thread
      · simp [same, present]
      · simp [same]
  | some entity => exact entity_updateEntity ..

theorem runState_setBlocked (thread : ThreadId) (sched : Scheduler NT NCG)
    (other : ThreadId) :
    (sched.setBlocked thread).runState other =
      if other = thread then (sched.runState other).map fun _ => .blocked
      else sched.runState other := by
  unfold runState
  rw [entity_setBlocked]
  by_cases same : other = thread
  · simp [same, Function.comp_def]
  · simp [same]

theorem running_setBlocked {thread : ThreadId} {sched : Scheduler NT NCG}
    {other : ThreadId} (runs : (sched.setBlocked thread).running = some other) :
    sched.running = some other ∧
      (other = thread → sched.entity thread = none) := by
  unfold setBlocked at runs
  cases present : sched.entity thread with
  | none =>
      rw [present] at runs
      exact ⟨runs, fun _ => rfl⟩
  | some entity =>
      rw [present] at runs
      simp only at runs
      by_cases here : sched.running = some thread
      · simp [here] at runs
      · rw [if_neg here] at runs
        exact ⟨runs, fun same => absurd (same ▸ runs) here⟩

theorem ThreadsMatch.setBlocked {sched : Scheduler NT NCG}
    (threadsMatch : sched.ThreadsMatch) (thread : ThreadId) :
    (sched.setBlocked thread).ThreadsMatch :=
  threadsMatch.of_entity (entity_setBlocked thread sched) fun _ => rfl

/-! ## `setRunning` -/

theorem entity_setRunning (thread : ThreadId) (nowNs : Nat) (sched : Scheduler NT NCG)
    (other : ThreadId) :
    (sched.setRunning thread nowNs).entity other =
      if other = thread then
        (sched.entity other).map fun entity =>
          { entity with
            lastWaitMs := (nowNs - entity.becameReadyNs) / 1000000
            state := .running }
      else sched.entity other := by
  unfold setRunning
  cases present : sched.entity thread with
  | none =>
      by_cases same : other = thread
      · simp [same, present]
      · simp [same]
  | some entity => exact entity_updateEntity ..

theorem runState_setRunning (thread : ThreadId) (nowNs : Nat) (sched : Scheduler NT NCG)
    (other : ThreadId) :
    (sched.setRunning thread nowNs).runState other =
      if other = thread then (sched.runState other).map fun _ => .running
      else sched.runState other := by
  unfold runState
  rw [entity_setRunning]
  by_cases same : other = thread
  · simp [same, Function.comp_def]
  · simp [same]

theorem running_setRunning {thread : ThreadId} {nowNs : Nat} {sched : Scheduler NT NCG}
    {other : ThreadId} (runs : (sched.setRunning thread nowNs).running = some other) :
    sched.running = some other ∨
      other = thread ∧ (sched.entity thread).isSome := by
  unfold setRunning at runs
  cases present : sched.entity thread with
  | none =>
      rw [present] at runs
      exact Or.inl runs
  | some entity =>
      rw [present] at runs
      exact Or.inr ⟨(Option.some.inj runs).symm, rfl⟩

theorem running_setRunning_of_admitted {thread : ThreadId} {sched : Scheduler NT NCG}
    (admitted : (sched.entity thread).isSome) (nowNs : Nat) :
    (sched.setRunning thread nowNs).running = some thread := by
  obtain ⟨entity, present⟩ := Option.isSome_iff_exists.1 admitted
  unfold setRunning
  rw [present]

theorem ThreadsMatch.setRunning {sched : Scheduler NT NCG}
    (threadsMatch : sched.ThreadsMatch) (thread : ThreadId) (nowNs : Nat) :
    (sched.setRunning thread nowNs).ThreadsMatch :=
  threadsMatch.of_entity (entity_setRunning thread nowNs sched) fun _ => rfl

/-! ## `admitThread` -/

/-- `admitThread` as an update. -/
def setAdmitted (thread : ThreadId) (mode : SchedulerMode) (priority : Nat)
    (group : Option ChainGroupId) (sched : Scheduler NT NCG) : Scheduler NT NCG :=
  { sched with
    entities := sched.entities.put thread (.new thread mode priority group) }

theorem admit_state (thread : ThreadId) (mode : SchedulerMode) (priority : Nat)
    (group : Option ChainGroupId) (sched : Scheduler NT NCG) :
    (admitThread thread mode priority group sched).state? =
      some (sched.setAdmitted thread mode priority group) := by
  by_cases inside : thread < NT
  · simp [admitThread, Exec.guard, inside, setAdmitted]
  · have outside : sched.entities.put thread (.new thread mode priority group) =
        sched.entities := by
      unfold Slab.put
      rw [Vector.setIfInBounds_eq_of_size_le (Nat.le_of_not_lt inside)]
    simp [admitThread, Exec.guard, inside, setAdmitted, outside]

theorem entity_setAdmitted {thread : ThreadId} (inside : thread < NT)
    (mode : SchedulerMode) (priority : Nat) (group : Option ChainGroupId)
    (sched : Scheduler NT NCG) (other : ThreadId) :
    (sched.setAdmitted thread mode priority group).entity other =
      if other = thread then some (.new thread mode priority group)
      else sched.entity other := by
  change (sched.entities.put thread _).get? other = _
  rw [Slab.get?_put]
  by_cases same : other = thread
  · subst same
    simp [inside]
  · rw [if_neg (fun both => same both.1.symm), if_neg same]
    rfl

theorem runState_setAdmitted {thread : ThreadId} (inside : thread < NT)
    (mode : SchedulerMode) (priority : Nat) (group : Option ChainGroupId)
    (sched : Scheduler NT NCG) (other : ThreadId) :
    (sched.setAdmitted thread mode priority group).runState other =
      if other = thread then some .blocked else sched.runState other := by
  unfold runState
  rw [entity_setAdmitted inside]
  by_cases same : other = thread
  · rw [if_pos same, if_pos same]
    rfl
  · rw [if_neg same, if_neg same]

theorem ThreadsMatch.setAdmitted {sched : Scheduler NT NCG}
    (threadsMatch : sched.ThreadsMatch) {thread : ThreadId} (inside : thread < NT)
    (mode : SchedulerMode) (priority : Nat) (group : Option ChainGroupId) :
    (sched.setAdmitted thread mode priority group).ThreadsMatch := by
  intro i entity present
  rw [entity_setAdmitted inside] at present
  by_cases same : i = thread
  · rw [if_pos same, Option.some.injEq] at present
    rw [← present, same]
    rfl
  · rw [if_neg same] at present
    exact threadsMatch i entity present

/-! ## `account` -/

@[simp]
theorem entities_chargeGroup (sched : Scheduler NT NCG) (id : Option ChainGroupId)
    (increment : Nat) : (sched.chargeGroup id increment).entities = sched.entities := by
  unfold chargeGroup
  cases id with
  | none => rfl
  | some id =>
      cases present : sched.group id with
      | none => simp only [present]
      | some group => simp only [present]

/-- `account` stores the entity of the running thread, and no other. -/
theorem entities_account {sched : Scheduler NT NCG} {cur : ThreadId}
    {before : SchedEntity} (runs : sched.running = some cur)
    (present : sched.entity cur = some before) (nowNs : Nat) :
    ∃ after,
      (sched.account nowNs).entities = sched.entities.put cur after ∧
        after.thread = before.thread ∧
        after.state = if before.state = .running then .ready else before.state := by
  unfold account
  simp only [runs, present, entities_chargeGroup]
  refine ⟨_, rfl, ?_, ?_⟩
  · split
    · rfl
    · rfl
  · by_cases wasRunning : before.state = .running
    · simp [SchedEntity.charged, wasRunning]
    · simp [SchedEntity.charged, wasRunning]

/-- The entity of a thread after `account`.  Only the running one is touched. -/
theorem entity_account (nowNs : Nat) (sched : Scheduler NT NCG) (other : ThreadId) :
    (sched.account nowNs).entity other = sched.entity other ∨
      sched.running = some other ∧ ∃ before after,
        sched.entity other = some before ∧
          (sched.account nowNs).entity other = some after ∧
          after.thread = before.thread ∧
          after.state = if before.state = .running then .ready else before.state := by
  cases runs : sched.running with
  | none => exact Or.inl (by simp only [account, runs])
  | some cur =>
      cases present : sched.entity cur with
      | none =>
          refine Or.inl ?_
          simp only [account, runs, present]
          rfl
      | some before =>
          obtain ⟨after, entities, thread, state⟩ := entities_account runs present nowNs
          have read : (sched.account nowNs).entity other =
              if cur = other then some after else sched.entity other := by
            rw [entity, entities]
            exact Slab.get?_put_of_some present ..
          by_cases same : cur = other
          · subst same
            exact Or.inr ⟨rfl, before, after, present, read.trans (if_pos rfl), thread,
              state⟩
          · exact Or.inl (read.trans (if_neg same))

@[simp]
theorem running_account (nowNs : Nat) (sched : Scheduler NT NCG) :
    (sched.account nowNs).running = none := by
  unfold account
  cases runs : sched.running with
  | none => exact runs
  | some cur =>
      cases present : sched.entity cur with
      | none => simp only [present]
      | some entity => simp only [present]

theorem runState_account (nowNs : Nat) (sched : Scheduler NT NCG) (other : ThreadId) :
    (sched.account nowNs).runState other = sched.runState other ∨
      sched.runState other = some .running ∧
        (sched.account nowNs).runState other = some .ready := by
  unfold runState
  rcases entity_account nowNs sched other with
    same | ⟨_, before, after, there, here, _, state⟩
  · exact Or.inl (by rw [same])
  · rw [there, here, Option.map_some, Option.map_some, state]
    by_cases wasRunning : before.state = .running
    · exact Or.inr ⟨by rw [wasRunning], by rw [if_pos wasRunning]⟩
    · exact Or.inl (by rw [if_neg wasRunning])

theorem ThreadsMatch.account {sched : Scheduler NT NCG}
    (threadsMatch : sched.ThreadsMatch) (nowNs : Nat) :
    (sched.account nowNs).ThreadsMatch := by
  intro i entity present
  rcases entity_account nowNs sched i with
    same | ⟨_, before, after, there, here, thread, _⟩
  · exact threadsMatch i entity (same ▸ present)
  · rw [here, Option.some.injEq] at present
    rw [← present, thread]
    exact threadsMatch i before there

/-! ## `remove` -/

theorem entity_remove (thread : ThreadId) (sched : Scheduler NT NCG) (other : ThreadId) :
    (sched.remove thread).entity other =
      if other = thread then none else sched.entity other := by
  change (sched.entities.clear thread).get? other = _
  rw [Slab.get?_clear]
  simp only [eq_comm]
  rfl

theorem runState_remove (thread : ThreadId) (sched : Scheduler NT NCG)
    (other : ThreadId) :
    (sched.remove thread).runState other =
      if other = thread then none else sched.runState other := by
  unfold runState
  rw [entity_remove]
  by_cases same : other = thread
  · simp [same]
  · simp [same]

theorem running_remove {thread : ThreadId} {sched : Scheduler NT NCG} {other : ThreadId}
    (runs : (sched.remove thread).running = some other) :
    sched.running = some other ∧ other ≠ thread := by
  change (if sched.running = some thread then none else sched.running) = _ at runs
  by_cases here : sched.running = some thread
  · simp [here] at runs
  · rw [if_neg here] at runs
    exact ⟨runs, fun same => here (same ▸ runs)⟩

theorem ThreadsMatch.remove {sched : Scheduler NT NCG}
    (threadsMatch : sched.ThreadsMatch) (thread : ThreadId) :
    (sched.remove thread).ThreadsMatch := by
  intro i entity present
  rw [entity_remove] at present
  by_cases same : i = thread
  · simp [same] at present
  · rw [if_neg same] at present
    exact threadsMatch i entity present

/-! ## `pickNext` -/

/-- Whatever the selection loop holds was the key of a ready entity. -/
private theorem mem_of_foldl_pickStep (sched : Scheduler NT NCG)
    (entities : List SchedEntity) (best : Option PickKey) {key : PickKey}
    (picked : entities.foldl sched.pickStep best = some key) :
    best = some key ∨
      ∃ entity ∈ entities, entity.state = .ready ∧ sched.pickKey entity = key := by
  induction entities generalizing best with
  | nil => exact Or.inl picked
  | cons entity rest ih =>
      rcases ih (sched.pickStep best entity) picked with
        held | ⟨later, member, ready, same⟩
      · unfold pickStep at held
        by_cases ready : entity.state = .ready
        · simp only [ready, ne_eq, not_true_eq_false, if_false] at held
          cases best with
          | none =>
              exact Or.inr ⟨entity, List.mem_cons_self .., ready, Option.some.inj held⟩
          | some old =>
              simp only at held
              split at held
              · exact Or.inr
                  ⟨entity, List.mem_cons_self .., ready, Option.some.inj held⟩
              · exact Or.inl held
        · rw [if_pos ready] at held
          exact Or.inl held
      · exact Or.inr ⟨later, List.mem_cons_of_mem _ member, ready, same⟩

/-- `pickNext` returns a ready thread. -/
theorem runState_of_pickNext {sched : Scheduler NT NCG}
    (threadsMatch : sched.ThreadsMatch) {thread : ThreadId}
    (picked : sched.pickNext = some thread) : sched.runState thread = some .ready := by
  obtain ⟨key, chosen, rfl⟩ := Option.map_eq_some_iff.1 picked
  rcases mem_of_foldl_pickStep sched _ _ chosen with absurdity | ⟨entity, member, ready, rfl⟩
  · simp at absurdity
  · obtain ⟨i, present⟩ := Slab.mem_objects.1 member
    have here : entity.thread = i := threadsMatch i entity present
    change sched.runState entity.thread = _
    rw [here, runState, Scheduler.entity, present, Option.map_some, ready]

end Scheduler

end Simurgh
