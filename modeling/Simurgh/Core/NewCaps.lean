import Simurgh.Core.Room

/-!
# The slots of new capabilities

`Retype` reports the first new slot and promises that the other new capabilities are in
the slots that follow it.  The slots come from the free list of the space of the caller,
and a revocation puts slots at the front of this list.
-/

namespace Simurgh

namespace KernelState

variable {caller : ThreadId} {csId : CapSpaceId} {targetType : KernelObjectType}
  {physBase i remaining : Nat} {before after : KernelState}

/-- The objects that the rounds of the loop create, in order. -/
def newObjects (caller : ThreadId) (csId : CapSpaceId) (targetType : KernelObjectType)
    (physBase : Nat) : (i remaining : Nat) → KernelState → List ObjectRef
  | _, 0, _ => []
  | i, remaining + 1, state =>
      match allocObject caller targetType (physBase + i * objectSizeBytes targetType) state with
      | .ok object middle =>
          match insertNewCap csId object middle with
          | .ok _ later =>
              object :: newObjects caller csId targetType physBase (i + 1) remaining later
          | _ => []
      | _ => []

/-- The objects that a `Retype` creates. -/
def retypedObjects (caller : ThreadId) (untyped : CapId) (targetType : KernelObjectType)
    (count : Nat) (state : KernelState) : List ObjectRef :=
  match reserveRange caller untyped targetType count state with
  | .ok grant reserved =>
      match reserved.callerCapSpace caller with
      | .ok csId => newObjects caller csId targetType grant.physBase 0 grant.count reserved
      | .error _ => []
  | _ => []

/-- The slots from `cap` on hold the capabilities to the objects, in order. -/
def HoldsInOrder (state : KernelState) (caller : ThreadId) (cap : CapId)
    (objects : List ObjectRef) : Prop :=
  ∃ csId, state.callerCapSpace caller = .ok csId ∧
    ∀ (i : Nat) object, objects[i]? = some object →
      state.capSpaces.lookup { space := csId, cap := cap + i } = some (.full object)

/-- The free list of the space of the caller starts with `count` neighbours in ascending
order. -/
def FreeRun (state : KernelState) (caller : ThreadId) (count : Nat) : Prop :=
  ∃ csId table free first, state.callerCapSpace caller = .ok csId ∧
    state.capSpaces.get? csId = some table ∧ table.FreeList free ∧
    List.range' first count <+: free

/-! ## The slots of the loop -/

/-- Where the loop put the capabilities to its objects. -/
structure PutsIn (csId : CapSpaceId) (table : CapTable capSlotsPerSpace)
    (slots : List CapId) (objects : List ObjectRef) (before after : KernelState) : Prop where
  sameLength : objects.length = slots.length
  fresh : ∀ object ∈ objects, before.hasObject object = false
  distinct : objects.Nodup
  filled : ∀ (i : Nat) object, objects[i]? = some object →
    ∃ slot, slots[i]? = some slot ∧
      after.capSpaces.lookup { space := csId, cap := slot } = some (.full object)
  kept : ∀ cap, cap ∉ slots →
    after.capSpaces.lookup { space := csId, cap } = table.lookup cap

/-- A new capability goes to the head of the free list. -/
theorem insertNewCap_run {table : CapTable capSlotsPerSpace} {object : ObjectRef}
    {slot : CapId} (wf : table.Wf) (present : before.capSpaces.get? csId = some table)
    (ran : insertNewCap csId object before = .ok slot after) :
    table.freeHead = some slot ∧
      after.capSpaces.get? csId = some (table.occupy slot (.full object) none) := by
  unfold insertNewCap at ran
  rw [Exec.get_bind_run] at ran
  obtain ⟨found, middle, looked, stored⟩ := Exec.bind_eq_ok.1 ran
  obtain ⟨_, rfl⟩ := Exec.okOr_eq_ok.1 looked
  obtain ⟨tables, inserted, rfl⟩ := Exec.zoom_eq_ok.1 stored
  rcases CapTable.insertRoot_run wf (.full object) with ⟨_, failed⟩ | ⟨id, head, filled⟩
  · rw [CapTables.onTable_of_err present failed] at inserted
    cases inserted
  · rw [CapTables.onTable_of_ok present filled] at inserted
    obtain ⟨rfl, rfl⟩ := Outcome.ok.inj inserted
    exact ⟨head, Slab.get?_put_self (Slab.lt_of_get? present) _⟩

theorem hasObject_insertNewCap {object : ObjectRef} {slot : CapId}
    (ran : insertNewCap csId object before = .ok slot after) (other : ObjectRef) :
    after.hasObject other = before.hasObject other := by
  have ended : (insertNewCap csId object before).state? = some after := by
    rw [ran]
    rfl
  rcases insertNewCap_frame ended with rfl | ⟨tables, rfl, inserted⟩
  · rfl
  · exact hasObject_withTables (fun space => (CapTables.onTable_frame inserted space).2) other

/-- One more round in front of the others. -/
theorem PutsIn.cons {table : CapTable capSlotsPerSpace} {slot : CapId}
    {rest slots : List CapId} {object : ObjectRef} {objects : List ObjectRef}
    {later : KernelState} (list : table.FreeList (slot :: rest)) (absent : before.hasObject object = false)
    (present : later.hasObject object = true)
    (older : ∀ other, later.hasObject other = false → before.hasObject other = false)
    (fromRest : ∀ cap ∈ slots, cap ∈ rest)
    (puts : PutsIn csId (table.occupy slot (.full object) none) slots objects later after) :
    PutsIn csId table (slot :: slots) (object :: objects) before after := by
  have inside : slot < capSlotsPerSpace := ((list.covers slot).1 (List.mem_cons_self ..)).1
  have notInSlots : slot ∉ slots :=
    fun member => (List.nodup_cons.1 list.nodup).1 (fromRest slot member)
  refine ⟨by simp [puts.sameLength], ?_, ?_, ?_, ?_⟩
  · intro other member
    rcases List.mem_cons.1 member with rfl | tail
    · exact absent
    · exact older other (puts.fresh other tail)
  · refine List.nodup_cons.2 ⟨fun member => ?_, puts.distinct⟩
    rw [puts.fresh object member] at present
    cases present
  · intro i other there
    cases i with
    | zero =>
        obtain rfl : object = other := by simpa using there
        refine ⟨slot, rfl, ?_⟩
        rw [puts.kept slot notInSlots, CapTable.lookup_occupy inside, if_pos rfl]
    | succ i => exact puts.filled i other there
  · intro cap outside
    rw [List.mem_cons, not_or] at outside
    rw [puts.kept cap outside.2, CapTable.lookup_occupy inside, if_neg (Ne.symm outside.1)]

/-- The loop fills the free list from its head. -/
theorem createObjects_putsIn {table : CapTable capSlotsPerSpace} {free : List CapId}
    {first result : Option CapId} (wf : table.Wf) (list : table.FreeList free)
    (present : before.capSpaces.get? csId = some table)
    (ran : createObjects caller csId targetType physBase i remaining first before =
      .ok result after) :
    (free.take remaining).length = remaining ∧
      result = first.or (free.take remaining).head? ∧
      PutsIn csId table (free.take remaining)
        (newObjects caller csId targetType physBase i remaining before) before after := by
  induction remaining generalizing i first before table free with
  | zero =>
      obtain ⟨rfl, rfl⟩ : first = result ∧ before = after := by simpa [createObjects] using ran
      refine ⟨rfl, by simp, rfl, by simp [newObjects], by simp [newObjects],
        by simp [newObjects], fun cap _ => ?_⟩
      exact CapTables.lookup_of_get? present cap
  | succ remaining ih =>
      let grant : RetypeGrant :=
        { kind := targetType, count := i + remaining + 1, physBase, physLen := 0 }
      have page : grant.Page (physBase + i * objectSizeBytes targetType) :=
        ⟨i, by change i < i + remaining + 1; omega, by rw [objectSizeBytes_eq]⟩
      rw [createObjects] at ran
      obtain ⟨object, middle, made, ran⟩ := Exec.bind_eq_ok.1 ran
      obtain ⟨slot, later, stored, ran⟩ := Exec.bind_eq_ok.1 ran
      rcases allocObject_spec page caller csId before with
        ⟨error, failed⟩ | ⟨same, other, allocated, allocates⟩
      · rw [failed] at made
        cases made
      · rw [made] at allocated
        obtain ⟨rfl, rfl⟩ := Outcome.ok.inj allocated
        obtain ⟨head, stores⟩ := insertNewCap_run wf (allocates.tables csId table present) stored
        have chain := list.chain
        rw [head] at chain
        obtain ⟨rest, rfl, _⟩ := chain.exists_of_head
        obtain ⟨long, ends, puts⟩ := ih (wf.occupy head _ _)
          (list.occupy (.full object) none) stores ran
        have round : Creates csId targetType grant before later :=
          allocates.insertNewCap (by rw [stored]; rfl)
        have objects : newObjects caller csId targetType physBase i (remaining + 1) before =
            object :: newObjects caller csId targetType physBase (i + 1) remaining later := by
          simp only [newObjects, made, stored]
        rw [objects, List.take_succ_cons]
        refine ⟨by simp [long], ?_, ?_⟩
        · rw [ends]
          cases first with
          | none => rfl
          | some cap => rfl
        · refine puts.cons list allocates.absent ?_ ?_ ?_
          · rw [hasObject_insertNewCap stored]
            exact allocates.present
          · intro other absent
            by_contra there
            rw [round.hasObject (Bool.eq_true_of_not_eq_false there)] at absent
            cases absent
          · exact fun cap member => List.mem_of_mem_take member

/-! ## Retype -/

/-- What a `Retype` that returned did. -/
theorem doRetype_eq_ok {untyped cap : CapId} {count made : Nat}
    (ran : doRetype caller untyped targetType count before = .ok (.newCaps cap made) after) :
    made = count ∧ ∃ csId uid region grant later,
      before.Holds caller csId untyped .untypedMemory .write uid ∧
        before.untyped.get? uid = some region ∧
        reserveRange caller untyped targetType count before =
          .ok grant (before.putUntyped uid later) ∧
        createObjects caller csId targetType grant.physBase 0 count none
          (before.putUntyped uid later) = .ok (some cap) after ∧
        before.retypedObjects caller untyped targetType count =
          newObjects caller csId targetType grant.physBase 0 count
            (before.putUntyped uid later) := by
  unfold doRetype at ran
  rcases reserveRange_spec caller untyped targetType count before with
    ⟨_, error, failed⟩ | panicked |
      ⟨csId, uid, region, grant, later, holds, present, reserved, found⟩
  · rw [Exec.bind_of_err failed] at ran
    cases ran
  · rw [Exec.bind_run, panicked] at ran
    cases ran
  · have space : (before.putUntyped uid later).callerCapSpace caller = .ok csId := holds.space
    obtain ⟨_, sameCount, _⟩ := UntypedMemory.retype_ok reserved
    rw [Exec.bind_of_ok found, Exec.get_bind_run, space, Exec.ofExcept_ok,
      Exec.pure_bind_run, sameCount] at ran
    obtain ⟨first, final, looped, ran⟩ := Exec.bind_eq_ok.1 ran
    obtain ⟨slot, last, taken, ran⟩ := Exec.bind_eq_ok.1 ran
    obtain ⟨rfl, rfl⟩ := Exec.okOr_eq_ok.1 taken
    rw [Exec.pure_run, Outcome.ok.injEq, SyscallReturn.newCaps.injEq] at ran
    obtain ⟨⟨rfl, rfl⟩, rfl⟩ := ran
    refine ⟨rfl, csId, uid, region, grant, later, holds, present, found, looped, ?_⟩
    simp only [retypedObjects, found, space, sameCount]

/-- The loop leaves the caller in its space. -/
theorem callerCapSpace_createObjects {first result : Option CapId}
    (space : before.callerCapSpace caller = .ok csId)
    (ran : createObjects caller csId targetType physBase i remaining first before =
      .ok result after) : after.callerCapSpace caller = .ok csId := by
  let grant : RetypeGrant :=
    { kind := targetType, count := i + remaining, physBase, physLen := 0 }
  have bounded : i + remaining ≤ grant.count := Nat.le_refl _
  have creates : Creates csId targetType grant before after :=
    createObjects_creates bounded (by rw [ran]; rfl)
  unfold callerCapSpace at *
  cases found : before.tcb caller with
  | none => simp [found] at space
  | some tcb =>
      have there : after.tcb caller = some tcb := creates.tcbs.get?_of_some found
      rw [found] at space
      rw [there]
      exact space

/-- The capabilities are in order if and only if the free list was. -/
theorem PutsIn.holdsInOrder_iff {table : CapTable capSlotsPerSpace} {free : List CapId}
    {objects : List ObjectRef} {cap count : Nat} (named : before.Named)
    (space : after.callerCapSpace caller = .ok csId)
    (present : before.capSpaces.get? csId = some table)
    (long : (free.take count).length = count)
    (head : (free.take count).head? = some cap)
    (puts : PutsIn csId table (free.take count) objects before after) :
    after.HoldsInOrder caller cap objects ↔ ∃ first, List.range' first count <+: free := by
  have slotOf : ∀ i < count, ∃ object, objects[i]? = some object := by
    intro i inside
    have within : i < objects.length := by
      rw [puts.sameLength, long]
      exact inside
    exact ⟨objects[i], List.getElem?_eq_getElem within⟩
  constructor
  · rintro ⟨other, same, inOrder⟩
    obtain rfl : csId = other := by simpa [space] using same
    refine ⟨cap, ?_⟩
    have slots : free.take count = List.range' cap count := by
      refine List.ext_getElem? fun i => ?_
      by_cases inside : i < count
      · obtain ⟨object, here⟩ := slotOf i inside
        have held := inOrder i object here
        rw [List.getElem?_range' (by omega), Nat.one_mul]
        by_cases member : cap + i ∈ free.take count
        · obtain ⟨j, there⟩ := List.mem_iff_getElem?.1 member
          have within : j < count := by
            rw [← long]
            exact (List.getElem?_eq_some_iff.1 there).1
          obtain ⟨second, again⟩ := slotOf j within
          obtain ⟨slot, slotAt, filled⟩ := puts.filled j second again
          obtain rfl : cap + i = slot := by simpa [there] using slotAt
          rw [held, Option.some.injEq] at filled
          obtain rfl : object = second := congrArg Capability.object filled
          have sameIndex : i = j := by
            refine (List.getElem?_inj ?_ puts.distinct).1 (here.trans again.symm)
            rw [puts.sameLength, long]
            exact inside
          rw [sameIndex] at there ⊢
          exact there
        · rw [puts.kept _ member] at held
          have old : before.capSpaces.lookup { space := csId, cap := cap + i } =
              some (.full object) := by
            rw [CapTables.lookup_of_get? present]
            exact held
          have named : before.hasObject object = true := named.objects _ _ old
          rw [puts.fresh object (List.mem_of_getElem? here)] at named
          cases named
      · rw [List.getElem?_eq_none (by rw [long]; omega),
          List.getElem?_eq_none (by rw [List.length_range']; omega)]
    rw [← slots]
    exact List.take_prefix ..
  · rintro ⟨first, starts⟩
    have slots : free.take count = List.range' first count := by
      have := List.prefix_iff_eq_take.1 starts
      rw [List.length_range'] at this
      exact this.symm
    refine ⟨csId, space, fun i object here => ?_⟩
    obtain ⟨slot, slotAt, filled⟩ := puts.filled i object here
    have inside : i < count := by
      rw [← long, ← puts.sameLength]
      exact (List.getElem?_eq_some_iff.1 here).1
    rw [slots] at head slotAt
    rw [List.getElem?_range' inside, Nat.one_mul] at slotAt
    have same : first = cap := by
      cases count with
      | zero => omega
      | succ count => simpa [List.range'_succ] using head
    rw [← same, Option.some.inj slotAt]
    exact filled

theorem doRetype_inOrder_iff {untyped cap : CapId} {count made : Nat}
    (named : before.Named)
    (ran : doRetype caller untyped targetType count before = .ok (.newCaps cap made) after) :
    made = count ∧
      (before.retypedObjects caller untyped targetType count).length = count ∧
      (after.HoldsInOrder caller cap
          (before.retypedObjects caller untyped targetType count) ↔
        before.FreeRun caller count) := by
  obtain ⟨rfl, csId, uid, region, grant, later, holds, there, _, looped, objects⟩ :=
    doRetype_eq_ok ran
  obtain ⟨held, lookedUp, _⟩ := holds.held
  obtain ⟨forest, represents⟩ := named.wf
  cases present : before.capSpaces.get? csId with
  | none => simp [CapTables.lookup, present] at lookedUp
  | some table =>
      have wf := represents.wf csId table present
      obtain ⟨free, list⟩ := wf.freeList
      have reservedNamed : (before.putUntyped uid later).Named :=
        ⟨named.wf, fun id cap found =>
          (hasObject_putUntyped there later _).trans (named.objects id cap found)⟩
      have reservedSpace : (before.putUntyped uid later).callerCapSpace caller = .ok csId :=
        holds.space
      have reservedTable : (before.putUntyped uid later).capSpaces.get? csId = some table :=
        present
      obtain ⟨long, first, puts⟩ := createObjects_putsIn wf list reservedTable looped
      have iff := puts.holdsInOrder_iff reservedNamed
        (callerCapSpace_createObjects reservedSpace looped) reservedTable long first.symm
      rw [objects]
      refine ⟨rfl, puts.sameLength.trans long, iff.trans ⟨?_, ?_⟩⟩
      · rintro ⟨start, ascends⟩
        exact ⟨csId, table, free, start, holds.space, present, list, ascends⟩
      · rintro ⟨other, found, sameFree, start, space, stored, again, ascends⟩
        obtain rfl : csId = other := by simpa [holds.space] using space
        obtain rfl : table = found := by simpa [present] using stored
        obtain rfl := list.chain.unique again.chain
        exact ⟨start, ascends⟩

end KernelState

namespace Machine

variable {μ : Type} (hal : HalInterface μ)

/-- The new capabilities are in the slots from `cap` on, if and only if the free list of
the space of the caller started with as many ascending neighbours. -/
theorem newCaps_inOrder_iff {machine after : Machine μ}
    (reachable : (system hal).Reachable TransitionSystem.anyStep machine)
    {caller : ThreadId} {nowNs : Nat} {untyped cap : CapId} {targetType : KernelObjectType}
    {count made : Nat}
    (returned : dispatch hal caller nowNs (.retype untyped targetType count) machine =
      .ok (.newCaps cap made) after) :
    made = count ∧
      (machine.kernel.retypedObjects caller untyped targetType count).length = count ∧
      (after.kernel.HoldsInOrder caller cap
          (machine.kernel.retypedObjects caller untyped targetType count) ↔
        machine.kernel.FreeRun caller count) := by
  have ran : onKernel (KernelState.doRetype caller untyped targetType count) machine =
      .ok (.newCaps cap made) after := returned
  obtain ⟨kernel, ranKernel, rfl⟩ := Exec.zoom_eq_ok.1 ran
  exact KernelState.doRetype_inOrder_iff (named_of_reachable hal reachable) ranKernel

/-- The space of a machine that has just booted hands out ascending slots. -/
theorem newCaps_inOrder_iff_sample : sampleMachine.kernel.FreeRun 0 2 := by
  have objects : sampleMachine.kernel.retypedObjects 0 0 .endpoint 2 =
      [⟨.endpoint, 0⟩, ⟨.endpoint, 1⟩] := by
    decide +kernel
  have value : (dispatch sampleHal 0 1 (.retype 0 .endpoint 2) sampleMachine).value? =
      some (.newCaps 2 2) := by
    decide +kernel
  have held : (dispatch sampleHal 0 1 (.retype 0 .endpoint 2) sampleMachine).state?.any
      fun after =>
        (after.kernel.tcb 0).map Tcb.capSpace = some 0 ∧
        after.kernel.capSpaces.lookup ⟨0, 2⟩ = some (.full ⟨.endpoint, 0⟩) ∧
        after.kernel.capSpaces.lookup ⟨0, 3⟩ = some (.full ⟨.endpoint, 1⟩) := by
    decide +kernel
  obtain ⟨after, returned⟩ := Outcome.eq_ok_of_value? value
  rw [returned] at held
  obtain ⟨root, first, second⟩ := of_decide_eq_true held
  obtain ⟨tcb, found, space⟩ := Option.map_eq_some_iff.1 root
  obtain ⟨_, _, iff⟩ := newCaps_inOrder_iff sampleHal
    ⟨sampleMachine, sampleMachine_boots, .refl _⟩ returned
  rw [objects] at iff
  refine iff.1 ⟨0, by rw [KernelState.callerCapSpace, found, ← space], ?_⟩
  intro i object here
  rcases i with _ | _ | i
  · obtain rfl := Option.some.inj here
    exact first
  · obtain rfl := Option.some.inj here
    exact second
  · cases here

/-! ## Recycled slots -/

/-- The root task makes two endpoints and revokes them, the first one first. -/
def recyclesSlots : List KernelEvent :=
  [ .syscall 0 (.retype 0 .endpoint 2) 1,
    .syscall 0 (.capRevoke 2) 2,
    .syscall 0 (.capRevoke 3) 3 ]

/-- The next two endpoints are in slots 3 and 2, and slot 4 is free. -/
theorem recycled_slots_descend :
    ¬ ∀ (machine after : Machine Unit) (caller : ThreadId) (nowNs : Nat) (untyped cap : CapId)
        (targetType : KernelObjectType) (count made : Nat),
      (system sampleHal).Reachable TransitionSystem.anyStep machine →
        dispatch sampleHal caller nowNs (.retype untyped targetType count) machine =
            .ok (.newCaps cap made) after →
          after.kernel.HoldsInOrder caller cap
            (machine.kernel.retypedObjects caller untyped targetType count) := by
  intro claimed
  have ran : (runWhile sampleHal (fun _ _ => true) recyclesSlots sampleMachine).any
      fun machine =>
        machine.kernel.retypedObjects 0 0 .endpoint 2 =
          [⟨.endpoint, 2⟩, ⟨.endpoint, 3⟩] ∧
        (dispatch sampleHal 0 4 (.retype 0 .endpoint 2) machine).value? =
          some (.newCaps 3 2) ∧
        ((dispatch sampleHal 0 4 (.retype 0 .endpoint 2) machine).state?.any fun after =>
          (after.kernel.tcb 0).map Tcb.capSpace = some 0 ∧
            after.kernel.capSpaces.lookup ⟨0, 4⟩ = none) := by
    decide +kernel
  obtain ⟨machine, reached, final⟩ := (Option.any_eq_true _ _).1 ran
  obtain ⟨objects, value, missing⟩ := of_decide_eq_true final
  obtain ⟨after, returned⟩ := Outcome.eq_ok_of_value? value
  rw [returned] at missing
  obtain ⟨root, vacant⟩ := of_decide_eq_true missing
  have run := reaches_runWhile sampleHal (.refl sampleMachine) reached
  obtain ⟨csId, space, inOrder⟩ := claimed machine after 0 4 0 3 .endpoint 2 2
    ⟨sampleMachine, sampleMachine_boots, run.mono fun _ _ _ => trivial⟩ returned
  obtain ⟨tcb, found, same⟩ := Option.map_eq_some_iff.1 root
  rw [KernelState.callerCapSpace, found] at space
  obtain rfl := Except.ok.inj space
  rw [objects, same] at inOrder
  have held := inOrder 1 _ rfl
  rw [vacant] at held
  cases held

end Machine

end Simurgh
