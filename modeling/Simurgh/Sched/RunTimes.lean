import Simurgh.Sched.Charge
import Simurgh.Sched.Groups

/-!
# Virtual run times over whole runs

No call takes virtual run time away from a thread or a group, except for two: admitting
a thread again and creating a group again start a new account.
-/

namespace Simurgh

/-- What every call keeps of an entity. -/
structure SchedEntity.Sound (entity : SchedEntity) : Prop where
  fits : entity.Fits
  inherits : entity.basePriority ≤ entity.effectivePriority

/-- The update keeps entities sound and takes no run time away. -/
def SchedEntity.Grows (update : SchedEntity → SchedEntity) : Prop :=
  ∀ entity : SchedEntity, entity.Sound →
    (update entity).Sound ∧ entity.vruntime ≤ (update entity).vruntime

namespace SchedEntity

theorem sound_new (thread : ThreadId) (mode : SchedulerMode) (priority : Nat)
    (group : Option ChainGroupId) : (SchedEntity.new thread mode priority group).Sound where
  fits := fits_new thread mode priority group
  inherits := Nat.le_refl (clampPriority priority).val

/-- An update of fields that no account depends on. -/
theorem Grows.of_same {update : SchedEntity → SchedEntity}
    (vruntime : ∀ entity, (update entity).vruntime = entity.vruntime)
    (baseWeight : ∀ entity, (update entity).baseWeightFp = entity.baseWeightFp)
    (priorities : ∀ entity : SchedEntity, entity.basePriority ≤ entity.effectivePriority →
      (update entity).basePriority ≤ (update entity).effectivePriority) : Grows update := by
  intro entity sound
  have fits : (update entity).Fits :=
    ⟨by rw [vruntime]; exact sound.fits.vruntime,
      by rw [baseWeight]; exact sound.fits.baseWeight⟩
  exact ⟨⟨fits, priorities entity sound.inherits⟩, Nat.le_of_eq (vruntime entity).symm⟩

theorem Grows.id : Grows fun entity => entity :=
  .of_same (fun _ => rfl) (fun _ => rfl) fun _ ordered => ordered

end SchedEntity

/-- The account of a group stays in its type and loses nothing. -/
def ChainGroup.GrowsTo (group later : ChainGroup) : Prop :=
  group.groupVruntime < 0x10000000000000000 →
    group.groupVruntime ≤ later.groupVruntime ∧
      later.groupVruntime < 0x10000000000000000

namespace ChainGroup

theorem GrowsTo.of_eq {group later : ChainGroup}
    (same : later.groupVruntime = group.groupVruntime) : group.GrowsTo later := by
  intro bound
  omega

theorem GrowsTo.refl (group : ChainGroup) : group.GrowsTo group := .of_eq rfl

theorem growsTo_charge (group : ChainGroup) (increment : Nat) :
    group.GrowsTo (group.charge increment) := by
  intro bound
  change _ ≤ saturatingAdd group.groupVruntime increment ∧
    saturatingAdd group.groupVruntime increment < _
  unfold saturatingAdd
  omega

end ChainGroup

namespace Scheduler

variable {NT NCG : Nat} {sched : Scheduler NT NCG}

/-! ## One call -/

/-- Nothing happens to the account of the thread. -/
private theorem grows_unchanged {before after : Option SchedEntity} (same : after = before) :
    ∃ update, SchedEntity.Grows update ∧ after = before.map update :=
  ⟨fun entity => entity, .id, by rw [same, Option.map_id']⟩

/-- An account that was charged. -/
theorem entity_account_grows (nowNs : Nat) (sched : Scheduler NT NCG) (thread : ThreadId) :
    ∃ update, SchedEntity.Grows update ∧
      (sched.account nowNs).entity thread = (sched.entity thread).map update := by
  cases runs : sched.running with
  | none => exact grows_unchanged (by simp only [account, runs])
  | some cur =>
      cases present : sched.entity cur with
      | none =>
          refine grows_unchanged ?_
          simp only [account, runs, present]
          rfl
      | some before =>
          by_cases here : cur = thread
          · subst here
            let ranNs := nowNs - sched.runningSinceNs
            refine ⟨fun entity =>
              if (entity.charged ranNs).state = .running then
                { entity.charged ranNs with state := .ready, becameReadyNs := nowNs }
              else entity.charged ranNs, ?_, ?_⟩
            · intro entity sound
              have fits := sound.fits.charged ranNs
              have more : entity.vruntime ≤ (entity.charged ranNs).vruntime := by
                have bound := sound.fits.vruntime
                change _ ≤ saturatingAdd entity.vruntime _
                unfold saturatingAdd
                omega
              beta_reduce
              split
              · exact ⟨⟨⟨fits.vruntime, fits.baseWeight⟩, sound.inherits⟩, more⟩
              · exact ⟨⟨fits, sound.inherits⟩, more⟩
            · rw [Scheduler.entity]
              simp only [account, runs, present, entities_chargeGroup]
              rw [Slab.get?_put_of_some present, if_pos rfl]
              rfl
          · refine grows_unchanged ?_
            rw [Scheduler.entity]
            simp only [account, runs, present, entities_chargeGroup]
            rw [Slab.get?_put_of_some present, if_neg here]
            rfl

/-- An update of one entity, seen from any thread. -/
private theorem grows_at {later : Scheduler NT NCG} {thread : ThreadId}
    {update : SchedEntity → SchedEntity}
    (entities : ∀ i, later.entity i =
      if i = thread then (sched.entity i).map update else sched.entity i)
    (grows : SchedEntity.Grows update) (other : ThreadId) :
    ∃ update, SchedEntity.Grows update ∧
      later.entity other = (sched.entity other).map update := by
  rw [entities]
  by_cases same : other = thread
  · rw [if_pos same]
    exact ⟨update, grows, rfl⟩
  · rw [if_neg same]
    exact grows_unchanged rfl

private theorem grows_elsewhere {later : Scheduler NT NCG}
    (same : later.entities = sched.entities) (other : ThreadId) :
    ∃ update, SchedEntity.Grows update ∧
      later.entity other = (sched.entity other).map update := by
  exact grows_unchanged (congrArg (fun entities => entities.get? other) same)

/-- A call touches the account of a thread in one of three ways. -/
theorem entity_perform (call : Call) (sched : Scheduler NT NCG) (thread : ThreadId) :
    (∃ update, SchedEntity.Grows update ∧
        (call.perform sched).entity thread = (sched.entity thread).map update) ∨
      (call = .remove thread ∧ (call.perform sched).entity thread = none) ∨
      ∃ mode priority group, call = .admitThread thread mode priority group ∧
        (call.perform sched).entity thread = some (.new thread mode priority group) := by
  cases call with
  | admitThread admitted mode priority group =>
      rw [Call.perform_of_state (.admitThread admitted mode priority group)
        (admit_state admitted mode priority group sched)]
      by_cases inside : admitted < NT
      · rw [entity_setAdmitted inside]
        by_cases same : thread = admitted
        · rw [if_pos same, same]
          exact Or.inr (Or.inr ⟨mode, priority, group, rfl, rfl⟩)
        · rw [if_neg same]
          exact Or.inl (grows_unchanged rfl)
      · refine Or.inl (grows_elsewhere ?_ thread)
        change sched.entities.put admitted _ = _
        unfold Slab.put
        rw [Vector.setIfInBounds_eq_of_size_le (Nat.le_of_not_lt inside)]
  | remove removed =>
      have performed : (Call.remove removed).perform sched = sched.remove removed := rfl
      rw [performed, entity_remove]
      by_cases same : thread = removed
      · rw [if_pos same, same]
        exact Or.inr (Or.inl ⟨rfl, rfl⟩)
      · rw [if_neg same]
        exact Or.inl (grows_unchanged rfl)
  | noteReady woken nowNs =>
      rw [Call.perform_of_state (.noteReady woken nowNs) (noteReady_state woken nowNs sched)]
      refine Or.inl (grows_at (entity_updateEntity _ _ _) ?_ thread)
      exact .of_same (fun _ => rfl) (fun _ => rfl) fun _ ordered => ordered
  | noteBlocked blocked =>
      rw [Call.perform_of_state (.noteBlocked blocked) (noteBlocked_state blocked sched)]
      refine Or.inl (grows_at (entity_setBlocked blocked sched) ?_ thread)
      exact .of_same (fun _ => rfl) (fun _ => rfl) fun _ ordered => ordered
  | setNumaLocal placed isLocal =>
      rw [Call.perform_of_state (.setNumaLocal placed isLocal) (onEntity_state placed _ sched)]
      refine Or.inl (grows_at (entity_updateEntity _ _ _) ?_ thread)
      exact .of_same (fun _ => rfl) (fun _ => rfl) fun _ ordered => ordered
  | inheritPriority holder donor =>
      rw [Call.perform_of_state (.inheritPriority holder donor) (onEntity_state holder _ sched)]
      refine Or.inl (grows_at (entity_updateEntity _ _ _) ?_ thread)
      refine .of_same (fun _ => rfl) (fun _ => rfl) fun entity ordered => ?_
      change entity.basePriority ≤ if _ then _ else _
      split
      · next raised => exact Fin.le_trans ordered (Nat.le_of_lt raised)
      · exact ordered
  | restorePriority holder =>
      rw [Call.perform_of_state (.restorePriority holder) (onEntity_state holder _ sched)]
      refine Or.inl (grows_at (entity_updateEntity _ _ _) ?_ thread)
      exact .of_same (fun _ => rfl) (fun _ => rfl) fun entity _ =>
        Nat.le_refl entity.basePriority.val
  | createGroup id =>
      rw [Call.perform_of_state (.createGroup id) (createGroup_state id sched)]
      exact Or.inl (grows_elsewhere rfl thread)
  | joinGroup joining id =>
      rw [Call.perform_of_state (.joinGroup joining id) (joinGroup_state joining id sched)]
      left
      unfold setJoined
      cases present : sched.group id with
      | none => exact grows_unchanged rfl
      | some group =>
          cases added : group.addMember joining with
          | error error =>
              simp only [added]
              exact grows_unchanged rfl
          | ok joined =>
              simp only [added]
              let stored := { sched with groups := sched.groups.put id joined }
              have kept : sched.entity thread = stored.entity thread := rfl
              rw [kept]
              refine grows_at (entity_updateEntity _ _ stored) ?_ thread
              exact .of_same (fun _ => rfl) (fun _ => rfl) fun _ ordered => ordered
  | leaveGroup leaving =>
      rw [Call.perform_of_state (.leaveGroup leaving) (leaveGroup_state leaving sched)]
      left
      unfold setLeft
      cases (sched.entity leaving).bind SchedEntity.chainGroup with
      | none => exact grows_unchanged rfl
      | some id =>
          have kept := entity_dropMember leaving id sched thread
          simp only [← kept]
          refine grows_at (entity_updateEntity _ _ _) ?_ thread
          exact .of_same (fun _ => rfl) (fun _ => rfl) fun _ ordered => ordered
  | account nowNs => exact Or.inl (entity_account_grows nowNs sched thread)
  | dispatch next nowNs =>
      rw [Call.perform_of_state (.dispatch next nowNs) (dispatch_state next nowNs sched)]
      refine Or.inl (grows_at (entity_setRunning next nowNs sched) ?_ thread)
      exact .of_same (fun _ => rfl) (fun _ => rfl) fun _ ordered => ordered

@[simp]
theorem groups_setBlocked (thread : ThreadId) (sched : Scheduler NT NCG) :
    (sched.setBlocked thread).groups = sched.groups := by
  unfold setBlocked
  cases present : sched.entity thread with
  | none => rfl
  | some entity => exact groups_updateEntity ..

@[simp]
theorem groups_setRunning (thread : ThreadId) (nowNs : Nat) (sched : Scheduler NT NCG) :
    (sched.setRunning thread nowNs).groups = sched.groups := by
  unfold setRunning
  cases present : sched.entity thread with
  | none => rfl
  | some entity => exact groups_updateEntity ..

theorem group_chargeGroup {charged : Option ChainGroupId} {increment : Nat}
    {id : ChainGroupId} {later : ChainGroup}
    (present : (sched.chargeGroup charged increment).group id = some later) :
    ∃ group, sched.group id = some group ∧ group.GrowsTo later := by
  unfold chargeGroup at present
  cases charged with
  | none => exact ⟨later, present, .refl later⟩
  | some charged =>
      cases there : sched.group charged with
      | none =>
          simp only [there] at present
          exact ⟨later, present, .refl later⟩
      | some group =>
          simp only [there] at present
          change (sched.groups.put charged _).get? id = some later at present
          rw [Slab.get?_put_of_some there] at present
          split at present
          · next same =>
              rw [← Option.some.inj present]
              exact ⟨group, same ▸ there, ChainGroup.growsTo_charge group increment⟩
          · exact ⟨later, present, .refl later⟩

/-- A charge goes to the group of the running thread. -/
theorem groups_account {cur : ThreadId} {entity : SchedEntity}
    (runs : sched.running = some cur) (present : sched.entity cur = some entity)
    (nowNs : Nat) :
    (sched.account nowNs).groups =
      (sched.chargeGroup entity.chainGroup
        ((entity.charged (nowNs - sched.runningSinceNs)).vruntime - entity.vruntime)).groups := by
  simp only [account, runs, present]
  unfold chargeGroup
  cases entity.chainGroup with
  | none => rfl
  | some id =>
      cases there : sched.group id with
      | none =>
          simp only [Scheduler.group] at there ⊢
          simp only [there]
      | some group =>
          simp only [Scheduler.group] at there ⊢
          simp only [there]

theorem group_account {nowNs : Nat} {id : ChainGroupId} {later : ChainGroup}
    (present : (sched.account nowNs).group id = some later) :
    ∃ group, sched.group id = some group ∧ group.GrowsTo later := by
  cases runs : sched.running with
  | none =>
      simp only [account, runs] at present
      exact ⟨later, present, .refl later⟩
  | some cur =>
      cases there : sched.entity cur with
      | none =>
          simp only [account, runs, there] at present
          exact ⟨later, present, .refl later⟩
      | some entity =>
          rw [Scheduler.group, groups_account runs there] at present
          exact group_chargeGroup present

/-- A group after one call had an account before, or is a new one. -/
theorem group_perform (call : Call) (sched : Scheduler NT NCG) {id : ChainGroupId}
    {later : ChainGroup} (present : (call.perform sched).group id = some later) :
    (call = .createGroup id ∧ later = .new id) ∨
      ∃ group, sched.group id = some group ∧ group.GrowsTo later := by
  have unchanged : (call.perform sched).groups = sched.groups →
      (call = .createGroup id ∧ later = .new id) ∨
        ∃ group, sched.group id = some group ∧ group.GrowsTo later := by
    intro same
    unfold group at present
    rw [same] at present
    exact Or.inr ⟨later, present, .refl later⟩
  cases call with
  | admitThread thread mode priority group =>
      apply unchanged
      rw [Call.perform_of_state (.admitThread thread mode priority group) (admit_state ..)]
      rfl
  | remove thread => exact unchanged rfl
  | noteReady thread nowNs =>
      apply unchanged
      rw [Call.perform_of_state (.noteReady thread nowNs) (noteReady_state ..)]
      exact groups_updateEntity ..
  | noteBlocked thread =>
      apply unchanged
      rw [Call.perform_of_state (.noteBlocked thread) (noteBlocked_state ..)]
      exact groups_setBlocked ..
  | setNumaLocal thread isLocal =>
      apply unchanged
      rw [Call.perform_of_state (.setNumaLocal thread isLocal) (onEntity_state ..)]
      exact groups_updateEntity ..
  | inheritPriority holder donor =>
      apply unchanged
      rw [Call.perform_of_state (.inheritPriority holder donor) (onEntity_state ..)]
      exact groups_updateEntity ..
  | restorePriority holder =>
      apply unchanged
      rw [Call.perform_of_state (.restorePriority holder) (onEntity_state ..)]
      exact groups_updateEntity ..
  | createGroup created =>
      rw [Call.perform_of_state (.createGroup created) (createGroup_state ..)] at present
      change (sched.groups.put created _).get? id = some later at present
      rw [Slab.get?_put] at present
      split at present
      · next here => exact Or.inl ⟨by rw [here.1], by rw [← here.1, ← Option.some.inj present]⟩
      · exact Or.inr ⟨later, present, .refl later⟩
  | joinGroup thread joined =>
      rw [Call.perform_of_state (.joinGroup thread joined) (joinGroup_state ..)] at present
      unfold setJoined at present
      right
      cases there : sched.group joined with
      | none =>
          rw [there] at present
          exact ⟨later, present, .refl later⟩
      | some group =>
          cases added : group.addMember thread with
          | error error =>
              simp only [there, added] at present
              exact ⟨later, present, .refl later⟩
          | ok larger =>
              simp only [there, added] at present
              rw [Scheduler.group, groups_updateEntity, Slab.get?_put_of_some there] at present
              split at present
              · next same =>
                  have account := ChainGroup.groupVruntime_addMember added
                  rw [Option.some.inj present] at account
                  exact ⟨group, same ▸ there, .of_eq account⟩
              · exact ⟨later, present, .refl later⟩
  | leaveGroup thread =>
      rw [Call.perform_of_state (.leaveGroup thread) (leaveGroup_state ..)] at present
      unfold setLeft at present
      right
      cases member : (sched.entity thread).bind SchedEntity.chainGroup with
      | none =>
          rw [member] at present
          exact ⟨later, present, .refl later⟩
      | some left =>
          simp only [member, Scheduler.group, groups_updateEntity] at present
          obtain ⟨group, there, account⟩ := group_dropMember present
          exact ⟨group, there, .of_eq account⟩
  | account nowNs => exact Or.inr (group_account present)
  | dispatch thread nowNs =>
      apply unchanged
      rw [Call.perform_of_state (.dispatch thread nowNs) (dispatch_state ..)]
      exact groups_setRunning ..

/-! ## Runs -/

/-- The accounts of a scheduler that was only changed by its calls. -/
structure Bounded (sched : Scheduler NT NCG) : Prop where
  entities : ∀ thread entity, sched.entity thread = some entity → entity.Sound
  groups : ∀ id group, sched.group id = some group →
    group.groupVruntime < 0x10000000000000000

theorem bounded_new (quantumNs : Nat) : (new quantumNs : Scheduler NT NCG).Bounded where
  entities thread entity present := by
    change (Slab.empty : Slab SchedEntity NT).get? thread = some entity at present
    simp at present
  groups id group present := by
    change (Slab.empty : Slab ChainGroup NCG).get? id = some group at present
    simp at present

theorem Bounded.call (bounded : sched.Bounded) (call : Call) :
    (call.perform sched).Bounded where
  entities thread entity present := by
    rcases entity_perform call sched thread with
      ⟨update, grows, after⟩ | ⟨_, after⟩ | ⟨mode, priority, group, _, after⟩
    · rw [after, Option.map_eq_some_iff] at present
      obtain ⟨old, there, rfl⟩ := present
      exact (grows old (bounded.entities thread old there)).1
    · simp [after] at present
    · rw [after] at present
      rw [← Option.some.inj present]
      exact SchedEntity.sound_new thread mode priority group
  groups id group present := by
    rcases group_perform call sched present with ⟨_, created⟩ | ⟨old, there, grows⟩
    · rw [created]
      change 0 < _
      decide
    · exact (grows (bounded.groups id old there)).2

theorem Bounded.perform (bounded : sched.Bounded) (calls : List Call) :
    (sched.perform calls).Bounded := by
  induction calls generalizing sched with
  | nil => exact bounded
  | cons call rest ih => exact ih (bounded.call call)

/-- The call opens no account anew in which there is run time. -/
def Call.Keeps (sched : Scheduler NT NCG) : Call → Prop
  | admitThread thread _ _ _ =>
      ∀ entity, sched.entity thread = some entity → entity.vruntime = 0
  | createGroup id => ∀ group, sched.group id = some group → group.groupVruntime = 0
  | _ => True

/-- Each call of a run keeps the accounts it finds. -/
def Careful (start : Scheduler NT NCG) (calls : List Call) : Prop :=
  ∀ earlier call later, calls = earlier ++ call :: later →
    call.Keeps (start.perform earlier)

/-- In a run the accounts of threads and groups grow, and priorities are in order. -/
structure TimesGrow (start : Scheduler NT NCG) (calls : List Call) : Prop where
  /-- A thread that is not removed stays registered, and its run time grows. -/
  threads : ∀ earlier middle later, calls = earlier ++ (middle ++ later) →
    ∀ thread entity, (start.perform earlier).entity thread = some entity →
      .remove thread ∉ middle →
        ∃ final, (start.perform (earlier ++ middle)).entity thread = some final ∧
          entity.vruntime ≤ final.vruntime
  /-- While a group exists its run time grows. -/
  groups : ∀ earlier middle later, calls = earlier ++ (middle ++ later) →
    ∀ id group, (start.perform earlier).group id = some group →
      (∀ part, part <+: middle → ((start.perform (earlier ++ part)).group id).isSome) →
        ∃ final, (start.perform (earlier ++ middle)).group id = some final ∧
          group.groupVruntime ≤ final.groupVruntime
  priorities : ∀ earlier later, calls = earlier ++ later →
    ∀ thread entity, (start.perform earlier).entity thread = some entity →
      entity.basePriority ≤ entity.effectivePriority ∧
        entity.effectivePriority.val ≤ maxPriority

theorem Careful.head {call : Call} {rest : List Call} (careful : sched.Careful (call :: rest)) :
    call.Keeps sched :=
  careful [] call rest rfl

theorem Careful.tail {call : Call} {rest : List Call} (careful : sched.Careful (call :: rest)) :
    (call.perform sched).Careful rest := by
  intro earlier next later split
  exact careful (call :: earlier) next later (by rw [split, List.cons_append])

theorem Careful.part {earlier middle later : List Call}
    (careful : sched.Careful (earlier ++ (middle ++ later))) :
    (sched.perform earlier).Careful middle := by
  intro first call second split
  rw [← perform_append]
  refine careful (earlier ++ first) call (second ++ later) ?_
  rw [split]
  simp

/-- One careful call takes nothing from a thread. -/
theorem entity_perform_of_keeps (bounded : sched.Bounded) {call : Call}
    (keeps : call.Keeps sched) {thread : ThreadId} {entity : SchedEntity}
    (present : sched.entity thread = some entity) (stays : call ≠ .remove thread) :
    ∃ later, (call.perform sched).entity thread = some later ∧
      entity.vruntime ≤ later.vruntime := by
  rcases entity_perform call sched thread with
    ⟨update, grows, after⟩ | ⟨removed, _⟩ | ⟨mode, priority, group, rfl, after⟩
  · rw [present, Option.map_some] at after
    exact ⟨update entity, after, (grows entity (bounded.entities thread entity present)).2⟩
  · exact absurd removed stays
  · have fresh : entity.vruntime = 0 := keeps entity present
    exact ⟨_, after, by omega⟩

theorem threads_grow {middle : List Call} (bounded : sched.Bounded)
    (careful : sched.Careful middle) {thread : ThreadId} {entity : SchedEntity}
    (present : sched.entity thread = some entity) (stays : .remove thread ∉ middle) :
    ∃ final, (sched.perform middle).entity thread = some final ∧
      entity.vruntime ≤ final.vruntime := by
  induction middle generalizing sched entity with
  | nil => exact ⟨entity, present, Nat.le_refl _⟩
  | cons call rest ih =>
      rw [List.mem_cons, not_or] at stays
      obtain ⟨next, there, first⟩ :=
        entity_perform_of_keeps bounded careful.head present (Ne.symm stays.1)
      obtain ⟨final, here, second⟩ :=
        ih (bounded.call call) careful.tail there stays.2
      exact ⟨final, here, Nat.le_trans first second⟩

theorem groups_grow {middle : List Call} (bounded : sched.Bounded)
    (careful : sched.Careful middle) {id : ChainGroupId} {group : ChainGroup}
    (present : sched.group id = some group)
    (survives : ∀ part, part <+: middle → ((sched.perform part).group id).isSome) :
    ∃ final, (sched.perform middle).group id = some final ∧
      group.groupVruntime ≤ final.groupVruntime := by
  induction middle generalizing sched group with
  | nil => exact ⟨group, present, Nat.le_refl _⟩
  | cons call rest ih =>
      have next := survives [call] ⟨rest, rfl⟩
      obtain ⟨next, there⟩ := Option.isSome_iff_exists.1 next
      have first : group.groupVruntime ≤ next.groupVruntime := by
        rcases group_perform call sched there with ⟨rfl, created⟩ | ⟨old, before, grows⟩
        · have fresh : group.groupVruntime = 0 := careful.head group present
          omega
        · rw [present, Option.some.injEq] at before
          exact before ▸ (grows (bounded.groups id old (before ▸ present))).1
      obtain ⟨final, here, second⟩ :=
        ih (bounded.call call) careful.tail there fun part inside =>
          survives (call :: part) (List.cons_prefix_cons.2 ⟨rfl, inside⟩)
      exact ⟨final, here, Nat.le_trans first second⟩

/-- Run times grow in a run exactly if no account with run time in it is opened anew. -/
theorem timesGrow_iff (quantumNs : Nat) (calls : List Call) :
    (new quantumNs : Scheduler NT NCG).TimesGrow calls ↔
      (new quantumNs : Scheduler NT NCG).Careful calls := by
  constructor
  · intro grow earlier call later split
    have middle : calls = earlier ++ ([call] ++ later) := split
    cases call with
    | admitThread thread mode priority group =>
        intro entity present
        obtain ⟨final, after, more⟩ :=
          grow.threads earlier _ later middle thread entity present (by simp)
        rw [perform_append, perform_cons, perform_nil,
          Call.perform_of_state (.admitThread thread mode priority group) (admit_state ..),
          entity_setAdmitted (Slab.lt_of_get? present), if_pos rfl] at after
        rw [← Option.some.inj after] at more
        exact Nat.le_zero.1 more
    | createGroup id =>
        intro group present
        have created : ((new quantumNs : Scheduler NT NCG).perform
            (earlier ++ [.createGroup id])).group id = some (.new id) := by
          rw [perform_append, perform_cons, perform_nil,
            Call.perform_of_state (.createGroup id) (createGroup_state ..)]
          exact Slab.get?_put_self (Slab.lt_of_get? present) _
        have survives : ∀ part, part <+: [.createGroup id] →
            (((new quantumNs : Scheduler NT NCG).perform (earlier ++ part)).group id).isSome := by
          intro part inside
          rcases List.prefix_cons_iff.1 inside with rfl | ⟨rest, rfl, none⟩
          · rw [List.append_nil, present]
            rfl
          · rw [List.prefix_nil.1 none, created]
            rfl
        obtain ⟨final, after, more⟩ :=
          grow.groups earlier _ later middle id group present survives
        rw [created] at after
        rw [← Option.some.inj after] at more
        exact Nat.le_zero.1 more
    | _ => trivial
  · intro careful
    have bounded : ∀ earlier, ((new quantumNs : Scheduler NT NCG).perform earlier).Bounded :=
      fun earlier => (bounded_new quantumNs).perform earlier
    constructor
    · intro earlier middle later split thread entity present stays
      rw [perform_append]
      exact threads_grow (bounded earlier) (split ▸ careful).part present stays
    · intro earlier middle later split id group present survives
      rw [perform_append]
      refine groups_grow (bounded earlier) (split ▸ careful).part present fun part inside => ?_
      rw [← perform_append]
      exact survives part inside
    · intro earlier later _ thread entity present
      have sound := (bounded earlier).entities thread entity present
      exact ⟨sound.inherits, Nat.le_of_lt_succ entity.effectivePriority.isLt⟩

/-- A thread has run for 4096 ns when it is admitted once more. -/
theorem readmitted_starts_over :
    ¬ (new 3000000 : Scheduler 96 24).TimesGrow
      [.admitThread 1 .interactive 39 none, .dispatch 1 0, .account 4096,
        .admitThread 1 .interactive 39 none] := by
  intro grow
  let earlier : List Call :=
    [.admitThread 1 .interactive 39 none, .dispatch 1 0, .account 4096]
  let again : List Call := [.admitThread 1 .interactive 39 none]
  have ran : (((new 3000000 : Scheduler 96 24).perform earlier).entity 1).map
      SchedEntity.vruntime = some 1024 := by
    decide +kernel
  have fresh : (((new 3000000 : Scheduler 96 24).perform (earlier ++ again)).entity 1).map
      SchedEntity.vruntime = some 0 := by
    decide +kernel
  obtain ⟨entity, present, old⟩ := Option.map_eq_some_iff.1 ran
  obtain ⟨final, there, more⟩ :=
    grow.threads earlier again [] rfl 1 entity present (by decide)
  rw [there, Option.map_some, Option.some.injEq] at fresh
  omega

end Scheduler

end Simurgh
