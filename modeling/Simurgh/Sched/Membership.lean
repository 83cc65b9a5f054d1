import Mathlib.Data.List.Induction
import Simurgh.Lib.TwoWay
import Simurgh.Sched.RunTimes

/-!
# Members of the chain groups

Membership is stored in the group and in the entity of the thread.  A call keeps the two in
agreement, fails without effect and frees the right slots exactly if it respects the members
it finds.
-/

namespace Simurgh

namespace Scheduler

variable {NT NCG : Nat} {sched later : Scheduler NT NCG}

/-! ## Both sides -/

/-- The member list of a group that exists. -/
def roster (sched : Scheduler NT NCG) (id : ChainGroupId) : Option (List ThreadId) :=
  (sched.group id).map ChainGroup.memberThreads

def members (sched : Scheduler NT NCG) (id : ChainGroupId) : List ThreadId :=
  (sched.roster id).getD []

/-- The group that the entity of a thread names. -/
def home (sched : Scheduler NT NCG) (thread : ThreadId) : Option ChainGroupId :=
  (sched.entity thread).bind SchedEntity.chainGroup

/-- A thread is in the list of a group exactly if it is registered and its entity names the
group, and it is there once. -/
structure Consistent (sched : Scheduler NT NCG) : Prop where
  both : ∀ thread id,
    (∃ group, sched.group id = some group ∧ thread ∈ group.memberThreads) ↔
      ∃ entity, sched.entity thread = some entity ∧ entity.chainGroup = some id
  nodup : ∀ id group, sched.group id = some group → group.memberThreads.Nodup

theorem members_of_group {id : ChainGroupId} {group : ChainGroup}
    (present : sched.group id = some group) : sched.members id = group.memberThreads := by
  rw [members, roster, present]
  rfl

theorem members_of_none {id : ChainGroupId} (absent : sched.group id = none) :
    sched.members id = [] := by
  rw [members, roster, absent]
  rfl

theorem mem_members_iff {thread : ThreadId} {id : ChainGroupId} :
    thread ∈ sched.members id ↔
      ∃ group, sched.group id = some group ∧ thread ∈ group.memberThreads := by
  cases present : sched.group id with
  | none => simp [members_of_none present]
  | some group => simp [members_of_group present]

theorem consistent_iff : sched.Consistent ↔ TwoWay sched.members sched.home := by
  constructor
  · intro consistent
    constructor
    · intro thread id
      rw [mem_members_iff, consistent.both, home, Option.bind_eq_some_iff]
    · intro id
      cases present : sched.group id with
      | none =>
          rw [members_of_none present]
          exact List.nodup_nil
      | some group =>
          rw [members_of_group present]
          exact consistent.nodup id group present
  · intro twoWay
    constructor
    · intro thread id
      rw [← mem_members_iff, twoWay.agree, home, Option.bind_eq_some_iff]
    · intro id group present
      rw [← members_of_group present]
      exact twoWay.nodup id

theorem consistent_new (quantumNs : Nat) : (new quantumNs : Scheduler NT NCG).Consistent := by
  apply consistent_iff.2
  have nobody : (new quantumNs : Scheduler NT NCG).members = fun _ => [] := by
    funext id
    exact members_of_none (Slab.get?_empty id)
  have nowhere : (new quantumNs : Scheduler NT NCG).home = fun _ => none := by
    funext thread
    exact congrArg (Option.bind · SchedEntity.chainGroup) (Slab.get?_empty thread)
  rw [nobody, nowhere]
  exact TwoWay.empty

/-! ## What the calls write -/

theorem members_of_roster (same : later.roster = sched.roster) :
    later.members = sched.members := by
  funext id
  rw [members, same, members]

theorem roster_of_groups (same : later.groups = sched.groups) : later.roster = sched.roster := by
  funext id
  rw [roster, group, same, roster, group]

theorem home_of_entities (same : later.entities = sched.entities) : later.home = sched.home := by
  funext thread
  rw [home, entity, same, home, entity]

/-- A group was put into its slot. -/
theorem roster_put {id : ChainGroupId} (inside : id < NCG) (group : ChainGroup)
    (written : later.groups = sched.groups.put id group) :
    later.roster = Function.update sched.roster id (some group.memberThreads) := by
  funext other
  rw [roster, Scheduler.group, written]
  by_cases same : other = id
  · subst same
    rw [Slab.get?_put_self inside, Function.update_self]
    rfl
  · rw [Slab.get?_put_of_ne (Ne.symm same), Function.update_of_ne same]
    rfl

theorem roster_clear {id : ChainGroupId} (written : later.groups = sched.groups.clear id) :
    later.roster = Function.update sched.roster id none := by
  funext other
  rw [roster, Scheduler.group, written, Slab.get?_clear]
  by_cases same : other = id
  · subst same
    rw [if_pos rfl, Function.update_self]
    rfl
  · rw [if_neg (Ne.symm same), Function.update_of_ne same]
    rfl

theorem members_of_update {id : ChainGroupId} {list : Option (List ThreadId)}
    (written : later.roster = Function.update sched.roster id list) :
    later.members = Function.update sched.members id (list.getD []) := by
  funext other
  rw [members, written]
  by_cases same : other = id
  · subst same
    rw [Function.update_self, Function.update_self]
  · rw [Function.update_of_ne same, Function.update_of_ne same]
    rfl

/-- The entity of one thread was rewritten, but not where it belongs. -/
theorem home_of_entity {thread : ThreadId} {update : SchedEntity → SchedEntity}
    (entities : ∀ i, later.entity i =
      if i = thread then (sched.entity i).map update else sched.entity i)
    (keeps : ∀ entity, (update entity).chainGroup = entity.chainGroup) :
    later.home = sched.home := by
  funext other
  rw [home, entities, home]
  by_cases same : other = thread
  · rw [if_pos same, Option.bind_map]
    apply congrArg
    funext entity
    exact keeps entity
  · rw [if_neg same]

/-- A registered thread was told where it belongs. -/
theorem home_updateEntity {thread : ThreadId} {sched : Scheduler NT NCG}
    (registered : (sched.entity thread).isSome) (id : Option ChainGroupId) :
    (sched.updateEntity thread fun entity => { entity with chainGroup := id }).home =
      Function.update sched.home thread id := by
  funext other
  rw [home, entity_updateEntity]
  by_cases same : other = thread
  · subst same
    cases present : sched.entity other with
    | none => simp [present] at registered
    | some entity =>
        rw [if_pos rfl, Function.update_self]
        rfl
  · rw [if_neg same, Function.update_of_ne same]
    rfl

/-- Charging a group does not change who is in it. -/
theorem roster_chargeGroup (sched : Scheduler NT NCG) (id : Option ChainGroupId)
    (increment : Nat) : (sched.chargeGroup id increment).roster = sched.roster := by
  unfold chargeGroup
  cases id with
  | none => rfl
  | some id =>
      cases present : sched.group id with
      | none => simp only [present]
      | some group =>
          simp only [present]
          rw [roster_put (Slab.lt_of_get? present) (group.charge increment) rfl]
          apply Function.update_eq_iff.2
          constructor
          · rw [roster, present]
            rfl
          · intro other _
            rfl

theorem roster_account (nowNs : Nat) (sched : Scheduler NT NCG) :
    (sched.account nowNs).roster = sched.roster := by
  unfold account
  cases runs : sched.running with
  | none => rfl
  | some cur =>
      cases present : sched.entity cur with
      | none =>
          simp only [present]
          exact roster_of_groups rfl
      | some entity =>
          simp only [present]
          exact roster_chargeGroup ..

theorem home_account (nowNs : Nat) (sched : Scheduler NT NCG) :
    (sched.account nowNs).home = sched.home := by
  unfold account
  cases runs : sched.running with
  | none => rfl
  | some cur =>
      cases present : sched.entity cur with
      | none =>
          simp only [present]
          exact home_of_entities rfl
      | some before =>
          simp only [present]
          funext other
          rw [home, Scheduler.entity, entities_chargeGroup, Slab.get?_put_of_some present]
          by_cases same : cur = other
          · subst same
            rw [if_pos rfl, home, present]
            split
            · rfl
            · rfl
          · rw [if_neg same]
            rfl

/-! ## The calls that write one side -/

/-- The calls that have nothing to do with membership. -/
def Call.Quiet : Call → Prop
  | noteReady .. | noteBlocked .. | setNumaLocal .. | inheritPriority .. | restorePriority ..
  | account .. | dispatch .. => True
  | _ => False

/-- A quiet call charges the running thread, or rewrites one entity and leaves it where it
belongs. -/
theorem perform_of_quiet {call : Call} (quiet : call.Quiet) (sched : Scheduler NT NCG) :
    (∃ nowNs, call.perform sched = sched.account nowNs) ∨
      ∃ (thread : ThreadId) (update : SchedEntity → SchedEntity),
        (∀ i, (call.perform sched).entity i =
          if i = thread then (sched.entity i).map update else sched.entity i) ∧
        (∀ entity, (update entity).chainGroup = entity.chainGroup) ∧
        (call.perform sched).groups = sched.groups := by
  cases call with
  | noteReady thread nowNs =>
      rw [Call.perform_of_state (.noteReady thread nowNs) (noteReady_state thread nowNs sched)]
      exact Or.inr ⟨thread, _, entity_updateEntity thread _ sched, fun _ => rfl,
        groups_updateEntity ..⟩
  | noteBlocked thread =>
      rw [Call.perform_of_state (.noteBlocked thread) (noteBlocked_state thread sched)]
      exact Or.inr ⟨thread, _, entity_setBlocked thread sched, fun _ => rfl,
        groups_setBlocked ..⟩
  | setNumaLocal thread isLocal =>
      rw [Call.perform_of_state (.setNumaLocal thread isLocal) (onEntity_state thread _ sched)]
      exact Or.inr ⟨thread, _, entity_updateEntity thread _ sched, fun _ => rfl,
        groups_updateEntity ..⟩
  | inheritPriority holder donor =>
      rw [Call.perform_of_state (.inheritPriority holder donor) (onEntity_state holder _ sched)]
      exact Or.inr ⟨holder, _, entity_updateEntity holder _ sched, fun _ => rfl,
        groups_updateEntity ..⟩
  | restorePriority holder =>
      rw [Call.perform_of_state (.restorePriority holder) (onEntity_state holder _ sched)]
      exact Or.inr ⟨holder, _, entity_updateEntity holder _ sched, fun _ => rfl,
        groups_updateEntity ..⟩
  | account nowNs => exact Or.inl ⟨nowNs, rfl⟩
  | dispatch thread nowNs =>
      rw [Call.perform_of_state (.dispatch thread nowNs) (dispatch_state thread nowNs sched)]
      exact Or.inr ⟨thread, _, entity_setRunning thread nowNs sched, fun _ => rfl,
        groups_setRunning ..⟩
  | _ => exact quiet.elim

theorem home_of_quiet {call : Call} (quiet : call.Quiet) (sched : Scheduler NT NCG) :
    (call.perform sched).home = sched.home := by
  rcases perform_of_quiet quiet sched with ⟨nowNs, charged⟩ | ⟨thread, update, entities, keeps, _⟩
  · rw [charged]
    exact home_account nowNs sched
  · exact home_of_entity entities keeps

theorem roster_of_quiet {call : Call} (quiet : call.Quiet) (sched : Scheduler NT NCG) :
    (call.perform sched).roster = sched.roster := by
  rcases perform_of_quiet quiet sched with ⟨nowNs, charged⟩ | ⟨_, _, _, _, groups⟩
  · rw [charged]
    exact roster_account nowNs sched
  · exact roster_of_groups groups

/-! ## The five calls -/

theorem perform_admit_outside {thread : ThreadId} (outside : NT ≤ thread)
    (mode : SchedulerMode) (priority : Nat) (group : Option ChainGroupId)
    (sched : Scheduler NT NCG) :
    (Call.admitThread thread mode priority group).exec sched = .err .tableFull sched := by
  have full : ¬ thread < NT := Nat.not_lt.2 outside
  simp [Call.exec, admitThread, Exec.guard, full]

theorem home_setAdmitted {thread : ThreadId} (inside : thread < NT) (mode : SchedulerMode)
    (priority : Nat) (group : Option ChainGroupId) (sched : Scheduler NT NCG) :
    (sched.setAdmitted thread mode priority group).home =
      Function.update sched.home thread group := by
  funext other
  rw [home, entity_setAdmitted inside]
  by_cases same : other = thread
  · subst same
    rw [if_pos rfl, Function.update_self]
    rfl
  · rw [if_neg same, Function.update_of_ne same]
    rfl

theorem home_remove (thread : ThreadId) (sched : Scheduler NT NCG) :
    (sched.remove thread).home = Function.update sched.home thread none := by
  funext other
  rw [home, entity_remove]
  by_cases same : other = thread
  · subst same
    rw [if_pos rfl, Function.update_self]
    rfl
  · rw [if_neg same, Function.update_of_ne same]
    rfl

theorem createGroup_outside {id : ChainGroupId} (outside : NCG ≤ id)
    (sched : Scheduler NT NCG) :
    (Call.createGroup id).exec sched = .err .groupTableFull sched := by
  have full : ¬ id < NCG := Nat.not_lt.2 outside
  simp [Call.exec, createGroup, Exec.guard, full]

/-- A thread joins, is a member already, or is turned away. -/
theorem joinGroup_cases (thread : ThreadId) (id : ChainGroupId) (sched : Scheduler NT NCG) :
    (∃ error, joinGroup thread id sched = .err error sched) ∧
        (sched.group id = none ∨ maxChainMembers ≤ (sched.members id).length) ∨
      thread ∈ sched.members id ∧
        joinGroup thread id sched =
          onEntity thread (fun entity => { entity with chainGroup := some id }) sched ∨
      ∃ joined, sched.group id ≠ none ∧ thread ∉ sched.members id ∧
        (sched.members id).length < maxChainMembers ∧
        joined.memberThreads = sched.members id ++ [thread] ∧
        joinGroup thread id sched =
          onEntity thread (fun entity => { entity with chainGroup := some id })
            { sched with groups := sched.groups.put id joined } := by
  unfold joinGroup
  rw [Exec.get_bind_run]
  cases present : sched.group id with
  | none => exact Or.inl ⟨⟨.noSuchGroup, rfl⟩, Or.inl rfl⟩
  | some group =>
      rw [Exec.okOr_some, Exec.pure_bind_run, members_of_group present]
      by_cases member : thread ∈ group.memberThreads
      · have added : group.addMember thread = .ok group := if_pos member
        apply Or.inr
        apply Or.inl
        rw [added]
        simp only [Exec.modify_bind_run]
        rw [Slab.put_self present]
        exact ⟨member, rfl⟩
      · by_cases full : maxChainMembers ≤ group.memberThreads.length
        · have refused : group.addMember thread = .error .full :=
            (if_neg member).trans (if_pos full)
          apply Or.inl
          rw [refused]
          exact ⟨⟨.chainGroup .full, rfl⟩, Or.inr full⟩
        · have added : group.addMember thread =
              .ok { group with memberThreads := group.memberThreads ++ [thread] } :=
            (if_neg member).trans (if_neg full)
          apply Or.inr
          apply Or.inr
          rw [added]
          exact ⟨_, Option.some_ne_none group, member, Nat.lt_of_not_le full, rfl, rfl⟩

/-- What a departure writes to the table of groups. -/
theorem roster_dropMember {thread : ThreadId} {id : ChainGroupId} {group : ChainGroup}
    (present : sched.group id = some group) (member : thread ∈ group.memberThreads) :
    (sched.dropMember thread id).roster =
      Function.update sched.roster id
        (if group.memberThreads = [thread] then none
          else some (group.memberThreads.erase thread)) := by
  have gone : (group.without thread).memberThreads = group.memberThreads.erase thread := by
    simp [ChainGroup.without, ChainGroup.removeMember, member]
  have dropped : sched.dropMember thread id =
      { sched with
        groups :=
          if (group.without thread).isEmpty then sched.groups.clear id
          else sched.groups.put id (group.without thread) } := by
    simp only [dropMember, present]
  have lonely : (group.without thread).isEmpty = true ↔ group.memberThreads = [thread] := by
    rw [ChainGroup.isEmpty, gone, List.isEmpty_iff, List.erase_eq_nil_iff]
    constructor
    · rintro (none | one)
      · rw [none] at member
        exact absurd member List.not_mem_nil
      · exact one
    · exact Or.inr
  rw [dropped]
  by_cases last : group.memberThreads = [thread]
  · rw [if_pos last]
    apply roster_clear
    exact if_pos (lonely.2 last)
  · rw [if_neg last, ← gone]
    apply roster_put (Slab.lt_of_get? present)
    exact if_neg (fun vacant => last (lonely.1 vacant))

/-! ## One call -/

/-- What a call owes to the members it finds. -/
structure Call.KeepsMembers (sched : Scheduler NT NCG) (call : Call) : Prop where
  consistent : (call.perform sched).Consistent
  /-- A failing call changes nothing. -/
  failure : ∀ error later, call.exec sched = .err error later → later = sched
  /-- A slot is freed exactly when its last member leaves. -/
  freed : ∀ id group, sched.group id = some group →
    ((call.perform sched).group id = none ↔
      ∃ thread, call = .leaveGroup thread ∧ group.memberThreads = [thread])

/-- The call does not write over a membership, and whoever joins is registered and in no
other group. -/
def Call.Respects (sched : Scheduler NT NCG) : Call → Prop
  | admitThread thread _ _ group => NT ≤ thread ∨ sched.home thread = group
  | remove thread => sched.home thread = none
  | createGroup id => sched.members id = []
  | joinGroup thread id =>
      sched.group id = none ∨ maxChainMembers ≤ (sched.members id).length ∨
        thread ∈ sched.members id ∨
        (sched.entity thread).isSome ∧ sched.home thread = none
  | _ => True

theorem group_eq_none_iff {id : ChainGroupId} : sched.group id = none ↔ sched.roster id = none :=
  Option.map_eq_none_iff.symm

theorem consistent_of_same (consistent : sched.Consistent) (sameRoster : later.roster = sched.roster)
    (sameHome : later.home = sched.home) : later.Consistent := by
  rw [consistent_iff, members_of_roster sameRoster, sameHome]
  exact consistent_iff.1 consistent

/-- A call after which all slots are as before. -/
theorem freed_of_roster {call : Call} (stays : ∀ thread, call ≠ .leaveGroup thread)
    (same : (call.perform sched).roster = sched.roster) (id : ChainGroupId) (group : ChainGroup)
    (present : sched.group id = some group) :
    (call.perform sched).group id = none ↔
      ∃ thread, call = .leaveGroup thread ∧ group.memberThreads = [thread] := by
  rw [group_eq_none_iff, same, ← group_eq_none_iff, present]
  constructor
  · intro absent
    cases absent
  · rintro ⟨thread, leaves, _⟩
    exact absurd leaves (stays thread)

/-- A slot was written, and none was emptied. -/
theorem freed_of_update {call : Call} (stays : ∀ thread, call ≠ .leaveGroup thread)
    {written : ChainGroupId} {list : List ThreadId}
    (same : (call.perform sched).roster = Function.update sched.roster written (some list))
    (id : ChainGroupId) (group : ChainGroup) (present : sched.group id = some group) :
    (call.perform sched).group id = none ↔
      ∃ thread, call = .leaveGroup thread ∧ group.memberThreads = [thread] := by
  rw [group_eq_none_iff, same]
  constructor
  · intro absent
    by_cases here : id = written
    · rw [here, Function.update_self] at absent
      cases absent
    · rw [Function.update_of_ne here, ← group_eq_none_iff, present] at absent
      cases absent
  · rintro ⟨thread, leaves, _⟩
    exact absurd leaves (stays thread)

/-- A call that is refused. -/
theorem keepsMembers_of_refused (consistent : sched.Consistent) (call : Call)
    (stays : ∀ thread, call ≠ .leaveGroup thread) {error : SchedError}
    (refused : call.exec sched = .err error sched) : call.KeepsMembers sched := by
  have performed : call.perform sched = sched :=
    Call.perform_of_state call (by rw [refused]; rfl)
  constructor
  · rw [performed]
    exact consistent
  · intro other later failed
    rw [refused] at failed
    injection failed with _ same
    exact same.symm
  · apply freed_of_roster stays
    rw [performed]

/-- A call that looks a thread up fails before it writes. -/
theorem failure_of_lookup {α : Type} {read : Scheduler NT NCG → Option α}
    {write : α → Scheduler NT NCG → Scheduler NT NCG} {error failed : SchedError}
    (failure : (do
      let sched ← Exec.get
      let found ← Exec.okOr failed (read sched)
      Exec.modify (write found) : Exec (Scheduler NT NCG) SchedError Unit) sched =
        .err error later) : later = sched := by
  rw [Exec.get_bind_run] at failure
  rcases (Exec.Reads.okOr failed (read sched)).bind_eq_err failure with same | ⟨found, wrote⟩
  · exact same
  · cases wrote

theorem failure_of_quiet {call : Call} (quiet : call.Quiet) {error : SchedError}
    (failed : call.exec sched = .err error later) : later = sched := by
  cases call with
  | noteReady thread nowNs => exact failure_of_lookup failed
  | noteBlocked thread => exact failure_of_lookup failed
  | setNumaLocal thread isLocal => exact failure_of_lookup failed
  | inheritPriority holder donor => exact failure_of_lookup failed
  | restorePriority holder => exact failure_of_lookup failed
  | account nowNs => cases failed
  | dispatch thread nowNs => exact failure_of_lookup failed
  | _ => exact quiet.elim

theorem keepsMembers_of_quiet (consistent : sched.Consistent) {call : Call}
    (quiet : call.Quiet) : call.KeepsMembers sched := by
  have stays : ∀ thread, call ≠ .leaveGroup thread := by
    intro thread leaves
    rw [leaves] at quiet
    exact quiet
  constructor
  · exact consistent_of_same consistent (roster_of_quiet quiet sched) (home_of_quiet quiet sched)
  · intro error later failed
    exact failure_of_quiet quiet failed
  · exact freed_of_roster stays (roster_of_quiet quiet sched)

theorem admit_keepsMembers_iff (consistent : sched.Consistent) (thread : ThreadId)
    (mode : SchedulerMode) (priority : Nat) (group : Option ChainGroupId) :
    (Call.admitThread thread mode priority group).KeepsMembers sched ↔
      NT ≤ thread ∨ sched.home thread = group := by
  by_cases outside : NT ≤ thread
  · constructor
    · intro _
      exact Or.inl outside
    · intro _
      apply keepsMembers_of_refused consistent _ _
        (perform_admit_outside outside mode priority group sched)
      intro _ leaves
      cases leaves
  · have inside : thread < NT := Nat.lt_of_not_le outside
    have performed := Call.perform_of_state (.admitThread thread mode priority group)
      (admit_state thread mode priority group sched)
    have sameRoster : (sched.setAdmitted thread mode priority group).roster = sched.roster :=
      roster_of_groups rfl
    have agree : (sched.setAdmitted thread mode priority group).Consistent ↔
        sched.home thread = group := by
      rw [consistent_iff, members_of_roster sameRoster, home_setAdmitted inside]
      exact (consistent_iff.1 consistent).setHome_iff thread group
    constructor
    · intro keeps
      apply Or.inr
      apply agree.1
      rw [← performed]
      exact keeps.consistent
    · intro respects
      constructor
      · rw [performed]
        exact agree.2 (respects.resolve_left outside)
      · intro error later failed
        simp [Call.exec, admitThread, Exec.guard, inside] at failed
      · apply freed_of_roster
        · intro _ leaves
          cases leaves
        · rw [performed, sameRoster]

theorem remove_keepsMembers_iff (consistent : sched.Consistent) (thread : ThreadId) :
    (Call.remove thread).KeepsMembers sched ↔ sched.home thread = none := by
  have performed : (Call.remove thread).perform sched = sched.remove thread := rfl
  have sameRoster : (sched.remove thread).roster = sched.roster := roster_of_groups rfl
  have agree : (sched.remove thread).Consistent ↔ sched.home thread = none := by
    rw [consistent_iff, members_of_roster sameRoster, home_remove]
    exact (consistent_iff.1 consistent).setHome_iff thread none
  constructor
  · intro keeps
    apply agree.1
    exact keeps.consistent
  · intro homeless
    constructor
    · exact agree.2 homeless
    · intro error later failed
      cases failed
    · apply freed_of_roster
      · intro _ leaves
        cases leaves
      · rw [performed, sameRoster]

theorem createGroup_keepsMembers_iff (consistent : sched.Consistent) (id : ChainGroupId) :
    (Call.createGroup id).KeepsMembers sched ↔ sched.members id = [] := by
  by_cases outside : NCG ≤ id
  · constructor
    · intro _
      exact members_of_none (Slab.get?_eq_none_of_le outside)
    · intro _
      apply keepsMembers_of_refused consistent _ _ (createGroup_outside outside sched)
      intro _ leaves
      cases leaves
  · have inside : id < NCG := Nat.lt_of_not_le outside
    have performed := Call.perform_of_state (.createGroup id) (createGroup_state id sched)
    have written : ((Call.createGroup id).perform sched).roster =
        Function.update sched.roster id (some []) := by
      rw [performed]
      exact roster_put inside (.new id) rfl
    have sameHome : ((Call.createGroup id).perform sched).home = sched.home := by
      rw [performed]
      exact home_of_entities rfl
    have agree : ((Call.createGroup id).perform sched).Consistent ↔ sched.members id = [] := by
      rw [consistent_iff, members_of_update written, sameHome]
      exact (consistent_iff.1 consistent).clear_iff id
    constructor
    · intro keeps
      exact agree.1 keeps.consistent
    · intro vacant
      constructor
      · exact agree.2 vacant
      · intro error later failed
        simp [Call.exec, createGroup, Exec.guard, inside] at failed
      · apply freed_of_update
        · intro _ leaves
          cases leaves
        · exact written

theorem onEntity_of_registered {thread : ThreadId} (registered : (sched.entity thread).isSome)
    (update : SchedEntity → SchedEntity) :
    onEntity thread update sched = .ok () (sched.updateEntity thread update) := by
  obtain ⟨entity, present⟩ := Option.isSome_iff_exists.1 registered
  simp [onEntity, updateEntity, present]

theorem onEntity_of_unknown {thread : ThreadId} (sched : Scheduler NT NCG)
    (unknown : sched.entity thread = none) (update : SchedEntity → SchedEntity) :
    onEntity thread update sched = .err .noSuchThread sched := by
  simp [onEntity, unknown]

theorem isSome_entity_of_home {thread : ThreadId} {id : ChainGroupId}
    (belongs : sched.home thread = some id) : (sched.entity thread).isSome := by
  obtain ⟨entity, present, _⟩ := Option.bind_eq_some_iff.1 belongs
  rw [present]
  rfl

/-- A thread that is alone in a group belongs to it. -/
theorem home_of_alone (consistent : sched.Consistent) {thread : ThreadId} {id : ChainGroupId}
    {group : ChainGroup} (present : sched.group id = some group)
    (alone : group.memberThreads = [thread]) : sched.home thread = some id := by
  apply ((consistent_iff.1 consistent).agree thread id).1
  rw [members_of_group present, alone]
  exact List.mem_singleton_self thread

/-- A member that joins again is told once more where it belongs. -/
theorem rejoinGroup_keepsMembers (consistent : sched.Consistent) {thread : ThreadId}
    {id : ChainGroupId} (member : thread ∈ sched.members id)
    (rejoined : joinGroup thread id sched =
      onEntity thread (fun entity => { entity with chainGroup := some id }) sched) :
    (Call.joinGroup thread id).KeepsMembers sched := by
  have belongs := ((consistent_iff.1 consistent).agree thread id).1 member
  have registered := isSome_entity_of_home belongs
  rw [onEntity_of_registered registered] at rejoined
  have performed := Call.perform_of_state (.joinGroup thread id)
    (congrArg Outcome.state? rejoined)
  have sameRoster : ((Call.joinGroup thread id).perform sched).roster = sched.roster := by
    rw [performed]
    exact roster_of_groups (groups_updateEntity ..)
  have sameHome : ((Call.joinGroup thread id).perform sched).home = sched.home := by
    rw [performed, home_updateEntity registered, ← belongs, Function.update_eq_self]
  constructor
  · exact consistent_of_same consistent sameRoster sameHome
  · intro error later failed
    cases rejoined.symm.trans failed
  · apply freed_of_roster
    · intro _ leaves
      cases leaves
    · exact sameRoster

theorem joinGroup_keepsMembers_iff (consistent : sched.Consistent) (thread : ThreadId)
    (id : ChainGroupId) :
    (Call.joinGroup thread id).KeepsMembers sched ↔
      sched.group id = none ∨ maxChainMembers ≤ (sched.members id).length ∨
        thread ∈ sched.members id ∨
        (sched.entity thread).isSome ∧ sched.home thread = none := by
  have twoWay := consistent_iff.1 consistent
  rcases joinGroup_cases thread id sched with
    ⟨⟨error, refused⟩, reason⟩ | ⟨member, rejoined⟩ |
      ⟨joined, exists_, absent, room, list, ran⟩
  · constructor
    · intro _
      rcases reason with missing | full
      · exact Or.inl missing
      · exact Or.inr (Or.inl full)
    · intro _
      apply keepsMembers_of_refused consistent (.joinGroup thread id) _ refused
      intro _ leaves
      cases leaves
  · constructor
    · intro _
      exact Or.inr (Or.inr (Or.inl member))
    · intro _
      exact rejoinGroup_keepsMembers consistent member rejoined
  · have inside : id < NCG := by
      obtain ⟨group, present⟩ := Option.ne_none_iff_exists'.1 exists_
      exact Slab.lt_of_get? present
    let stored : Scheduler NT NCG := { sched with groups := sched.groups.put id joined }
    have storedRoster : stored.roster =
        Function.update sched.roster id (some (sched.members id ++ [thread])) := by
      rw [← list]
      exact roster_put inside joined rfl
    cases present : sched.entity thread with
    | none =>
        -- The list has the thread already when the lookup fails.
        have failed := ran.trans (onEntity_of_unknown stored present _)
        have performed := Call.perform_of_state (.joinGroup thread id)
          (congrArg Outcome.state? failed)
        constructor
        · intro keeps
          have kept := consistent_iff.1 keeps.consistent
          have sameHome : stored.home = sched.home := home_of_entities rfl
          rw [performed, members_of_update storedRoster, sameHome] at kept
          exact absurd kept (twoWay.not_of_append absent)
        · rintro (missing | full | member | ⟨registered, _⟩)
          · exact absurd missing exists_
          · exact absurd full (Nat.not_le.2 room)
          · exact absurd member absent
          · cases registered
    | some entity =>
        have registered : (stored.entity thread).isSome := by
          rw [Option.isSome_iff_exists]
          exact ⟨entity, present⟩
        have done := ran.trans (onEntity_of_registered registered _)
        have performed := Call.perform_of_state (.joinGroup thread id)
          (congrArg Outcome.state? done)
        have written : ((Call.joinGroup thread id).perform sched).roster =
            Function.update sched.roster id (some (sched.members id ++ [thread])) := by
          rw [performed, ← storedRoster]
          exact roster_of_groups (groups_updateEntity ..)
        have moved : ((Call.joinGroup thread id).perform sched).home =
            Function.update sched.home thread (some id) := by
          rw [performed, home_updateEntity registered]
          rfl
        have agree : ((Call.joinGroup thread id).perform sched).Consistent ↔
            sched.home thread = none := by
          rw [consistent_iff, members_of_update written, moved]
          exact twoWay.join_iff absent
        constructor
        · intro keeps
          exact Or.inr (Or.inr (Or.inr ⟨rfl, agree.1 keeps.consistent⟩))
        · rintro (missing | full | member | ⟨_, homeless⟩)
          · exact absurd missing exists_
          · exact absurd full (Nat.not_le.2 room)
          · exact absurd member absent
          · constructor
            · exact agree.2 homeless
            · intro error later failed
              cases done.symm.trans failed
            · apply freed_of_update
              · intro _ leaves
                cases leaves
              · exact written

/-- A member that leaves is taken off both sides, and the last one frees the slot. -/
theorem leaveGroup_keepsMembers (consistent : sched.Consistent) (thread : ThreadId) :
    (Call.leaveGroup thread).KeepsMembers sched := by
  have twoWay := consistent_iff.1 consistent
  cases belongs : sched.home thread with
  | none =>
      have left : leaveGroup thread sched = .ok () sched := by
        unfold leaveGroup
        unfold home at belongs
        rw [Exec.get_bind_run, belongs]
        rfl
      have performed := Call.perform_of_state (.leaveGroup thread) (congrArg Outcome.state? left)
      constructor
      · rw [performed]
        exact consistent
      · intro error later failed
        cases left.symm.trans failed
      · intro id group present
        rw [performed, present]
        constructor
        · intro absent
          cases absent
        · rintro ⟨other, leaves, last⟩
          injection leaves with same
          rw [← same] at last
          cases belongs.symm.trans (home_of_alone consistent present last)
  | some id =>
      obtain ⟨group, present, member⟩ :=
        mem_members_iff.1 ((twoWay.agree thread id).2 belongs)
      have registered : ((sched.dropMember thread id).entity thread).isSome := by
        rw [entity_dropMember]
        exact isSome_entity_of_home belongs
      have left : leaveGroup thread sched =
          .ok () ((sched.dropMember thread id).updateEntity thread
            fun entity => { entity with chainGroup := none }) := by
        unfold leaveGroup
        unfold home at belongs
        rw [Exec.get_bind_run, belongs]
        simp only [Exec.modify_bind_run]
        exact onEntity_of_registered registered _
      have performed := Call.perform_of_state (.leaveGroup thread) (congrArg Outcome.state? left)
      have written : ((Call.leaveGroup thread).perform sched).roster =
          Function.update sched.roster id
            (if group.memberThreads = [thread] then none
              else some (group.memberThreads.erase thread)) := by
        rw [performed, ← roster_dropMember present member]
        exact roster_of_groups (groups_updateEntity ..)
      have moved : ((Call.leaveGroup thread).perform sched).home =
          Function.update sched.home thread none := by
        have sameHome : (sched.dropMember thread id).home = sched.home :=
          home_of_entities (entities_dropMember ..)
        rw [performed, home_updateEntity registered, sameHome]
      have shorter : (if group.memberThreads = [thread] then none
          else some (group.memberThreads.erase thread)).getD [] =
            (sched.members id).erase thread := by
        rw [members_of_group present]
        by_cases last : group.memberThreads = [thread]
        · rw [if_pos last, last, List.erase_cons_head]
          rfl
        · rw [if_neg last]
          rfl
      constructor
      · rw [consistent_iff, members_of_update written, moved, shorter]
        exact twoWay.leave belongs
      · intro error later failed
        cases left.symm.trans failed
      · intro other kept there
        rw [group_eq_none_iff, written]
        by_cases here : other = id
        · subst here
          rw [present, Option.some.injEq] at there
          subst there
          rw [Function.update_self]
          constructor
          · intro freed
            by_cases last : group.memberThreads = [thread]
            · exact ⟨thread, rfl, last⟩
            · rw [if_neg last] at freed
              cases freed
          · rintro ⟨leaver, leaves, last⟩
            injection leaves with same
            rw [same, if_pos last]
        · rw [Function.update_of_ne here, ← group_eq_none_iff, there]
          constructor
          · intro absent
            cases absent
          · rintro ⟨leaver, leaves, last⟩
            injection leaves with same
            rw [← same] at last
            have elsewhere := home_of_alone consistent there last
            rw [belongs, Option.some.injEq] at elsewhere
            exact absurd elsewhere.symm here

/-- A call on consistent members keeps them exactly if it respects them. -/
theorem keepsMembers_iff_respects (consistent : sched.Consistent) (call : Call) :
    call.KeepsMembers sched ↔ call.Respects sched := by
  have quietly : call.Quiet → call.Respects sched →
      (call.KeepsMembers sched ↔ call.Respects sched) :=
    fun quiet respects => ⟨fun _ => respects, fun _ => keepsMembers_of_quiet consistent quiet⟩
  cases call with
  | admitThread thread mode priority group =>
      exact admit_keepsMembers_iff consistent thread mode priority group
  | remove thread => exact remove_keepsMembers_iff consistent thread
  | createGroup id => exact createGroup_keepsMembers_iff consistent id
  | joinGroup thread id => exact joinGroup_keepsMembers_iff consistent thread id
  | leaveGroup thread =>
      exact ⟨fun _ => trivial, fun _ => leaveGroup_keepsMembers consistent thread⟩
  | noteReady thread nowNs => exact quietly trivial trivial
  | noteBlocked thread => exact quietly trivial trivial
  | setNumaLocal thread isLocal => exact quietly trivial trivial
  | inheritPriority holder donor => exact quietly trivial trivial
  | restorePriority holder => exact quietly trivial trivial
  | account nowNs => exact quietly trivial trivial
  | dispatch thread nowNs => exact quietly trivial trivial

/-! ## Runs -/

/-- Each call of a run does what it owes to the members. -/
def MembershipKept (start : Scheduler NT NCG) (calls : List Call) : Prop :=
  ∀ earlier call later, calls = earlier ++ call :: later →
    call.KeepsMembers (start.perform earlier)

/-- Each call of a run respects the members it finds. -/
def Respectful (start : Scheduler NT NCG) (calls : List Call) : Prop :=
  ∀ earlier call later, calls = earlier ++ call :: later →
    call.Respects (start.perform earlier)

/-- The members are consistent wherever the calls so far have kept them. -/
theorem MembershipKept.consistent {start : Scheduler NT NCG} (initially : start.Consistent)
    {calls : List Call} (kept : start.MembershipKept calls) :
    ∀ earlier later, calls = earlier ++ later → (start.perform earlier).Consistent := by
  intro earlier later split
  cases earlier using List.reverseRecOn with
  | nil => exact initially
  | append_singleton earlier call _ =>
      rw [perform_append]
      apply (kept earlier call later _).consistent
      rw [split, List.append_assoc]
      rfl

theorem Respectful.consistent {start : Scheduler NT NCG} (initially : start.Consistent)
    {calls : List Call} (respectful : start.Respectful calls) :
    ∀ earlier later, calls = earlier ++ later → (start.perform earlier).Consistent := by
  intro earlier
  induction earlier using List.reverseRecOn with
  | nil =>
      intro _ _
      exact initially
  | append_singleton earlier call ih =>
      intro later split
      have whole : calls = earlier ++ call :: later := by
        rw [split, List.append_assoc]
        rfl
      have before := ih _ whole
      rw [perform_append]
      exact ((keepsMembers_iff_respects before call).2
        (respectful earlier call later whole)).consistent

/-- From a new scheduler on, membership is kept exactly by the runs that respect it. -/
theorem membershipKept_iff (quantumNs : Nat) (calls : List Call) :
    (new quantumNs : Scheduler NT NCG).MembershipKept calls ↔
      (new quantumNs : Scheduler NT NCG).Respectful calls := by
  constructor
  · intro kept earlier call later split
    have before := kept.consistent (consistent_new quantumNs) earlier _ split
    exact (keepsMembers_iff_respects before call).1 (kept earlier call later split)
  · intro respectful earlier call later split
    have before := respectful.consistent (consistent_new quantumNs) earlier _ split
    exact (keepsMembers_iff_respects before call).2 (respectful earlier call later split)

/-- A thread that was never admitted is in the list although joining failed. -/
theorem stranger_is_listed :
    (Call.joinGroup 5 0).exec ((new 3000000 : Scheduler 96 24).perform [.createGroup 0]) =
        .err .noSuchThread
          ((new 3000000 : Scheduler 96 24).perform [.createGroup 0, .joinGroup 5 0]) ∧
      ((new 3000000 : Scheduler 96 24).perform [.createGroup 0, .joinGroup 5 0]).members 0 =
        [5] ∧
      ¬ (new 3000000 : Scheduler 96 24).MembershipKept [.createGroup 0, .joinGroup 5 0] := by
  have failed : (Call.joinGroup 5 0).exec
      ((new 3000000 : Scheduler 96 24).perform [.createGroup 0]) =
        .err .noSuchThread
          ((new 3000000 : Scheduler 96 24).perform [.createGroup 0, .joinGroup 5 0]) := by
    decide +kernel
  have listed : ((new 3000000 : Scheduler 96 24).perform
      [.createGroup 0, .joinGroup 5 0]).members 0 = [5] := by
    decide +kernel
  have vacant : ((new 3000000 : Scheduler 96 24).perform [.createGroup 0]).members 0 = [] := by
    decide +kernel
  refine ⟨failed, listed, ?_⟩
  intro kept
  have same := (kept [.createGroup 0] (.joinGroup 5 0) [] rfl).failure _ _ failed
  rw [same, vacant] at listed
  cases listed

end Scheduler

end Simurgh
