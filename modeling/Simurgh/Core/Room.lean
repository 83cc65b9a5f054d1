import Simurgh.Core.Creation
import Simurgh.Core.Memory

/-!
# Room for `Retype`

`Retype` reserves memory first and then fills two tables, one entry at a time.  It
succeeds exactly if both have room for all the objects.  Otherwise it stops on the
way and leaves behind what it has done.
-/

namespace Simurgh

namespace KernelState

/-- Empty entries in the table of a type of object. -/
def vacancies (state : KernelState) : KernelObjectType → Nat
  | .untyped => state.untyped.vacancies
  | .pageTable => state.addrSpaces.vacancies
  | .threadControlBlock => state.tcbs.vacancies
  | .endpoint => state.endpoints.vacancies
  | .notification => state.notifications.vacancies
  | .capabilitySpace => state.capSpaces.vacancies
  | .sharedRegion => state.sharedRegions.vacancies

/-- Empty slots of a capability space. -/
def freeSlots (state : KernelState) (csId : CapSpaceId) : Nat :=
  match state.capSpace csId with
  | none => 0
  | some table => capSlotsPerSpace - table.occupied

/-- The call names a region with WRITE that has room for `count` objects. -/
def CanReserve (state : KernelState) (caller : ThreadId) (untyped : CapId) (count : Nat) :
    Prop :=
  ∃ csId uid region, state.Holds caller csId untyped .untypedMemory .write uid ∧
    state.untyped.get? uid = some region ∧ region.HasRoom count

/-- There is room for `count` objects and for the capabilities to them. -/
def HasRoomFor (state : KernelState) (caller : ThreadId) (targetType : KernelObjectType)
    (count : Nat) : Prop :=
  count ≤ state.vacancies targetType ∧
    ∀ csId, state.callerCapSpace caller = .ok csId → count ≤ state.freeSlots csId

/-! ## One round -/

/-- What the creation loop needs from the state before a round. -/
structure Creating (caller : ThreadId) (csId : CapSpaceId) (state : KernelState) : Prop where
  wf : state.capSpaces.Wf
  space : state.callerCapSpace caller = .ok csId
  table : (state.capSpace csId).isSome

variable {caller : ThreadId} {csId : CapSpaceId} {targetType : KernelObjectType}
variable {state before after : KernelState}

/-- Either the table is full, or it has one empty entry less than before. -/
private theorem allocIn_vacancies {α : Type} {n : Nat} {table : KernelState → Slab α n}
    {store : Slab α n → KernelState → KernelState} {make : Nat → α}
    {kind : KernelObjectKind}
    (stored : ∀ objects, table (store objects state) = objects)
    (kept : ∀ id objects, (table state).insert make = some (id, objects) →
      ∀ space held, state.capSpace space = some held →
        (store objects state).capSpace space = some held) :
    let program : Exec KernelState SyscallError ObjectRef := do
      let created ← allocIn table store make
      let id ← Exec.okOr .objectTableFull created
      return { kind, id }
    ((table state).vacancies = 0 ∧ ∃ error, program state = .err error state) ∨
      ∃ object later, program state = .ok object later ∧
        (table later).vacancies + 1 = (table state).vacancies ∧
        ∀ space held, state.capSpace space = some held →
          later.capSpace space = some held := by
  intro program
  cases inserted : (table state).insert make with
  | none =>
      refine Or.inl ⟨Slab.insert_eq_none_iff.1 inserted, .objectTableFull, ?_⟩
      simp [program, allocIn, Exec.bind_run, inserted]
  | some created =>
      obtain ⟨id, objects⟩ := created
      refine Or.inr ⟨{ kind, id }, store objects state, ?_, ?_, kept id objects inserted⟩
      · simp [program, allocIn, Exec.bind_run, inserted]
      · rw [stored]
        exact Slab.vacancies_of_insert inserted

/-- An object is created exactly if its table has an empty entry. -/
theorem allocObject_vacancies (creating : Creating caller csId state) (phys : Nat) :
    (state.vacancies targetType = 0 ∧
        ∃ error, allocObject caller targetType phys state = .err error state) ∨
      ∃ object later, allocObject caller targetType phys state = .ok object later ∧
        later.vacancies targetType + 1 = state.vacancies targetType ∧
        ∀ space held, state.capSpace space = some held →
          later.capSpace space = some held := by
  cases targetType with
  | threadControlBlock =>
      obtain ⟨tcb, found⟩ : ∃ tcb, state.tcb caller = some tcb := by
        have space := creating.space
        unfold callerCapSpace at space
        cases found : state.tcb caller with
        | none => simp [found] at space
        | some tcb => exact ⟨tcb, rfl⟩
      have same : allocObject caller .threadControlBlock phys state =
          (do
            let created ← allocTcb tcb.capSpace tcb.addrSpace
            let id ← Exec.okOr .objectTableFull created
            return { kind := .threadControlBlock, id } :
            Exec KernelState SyscallError ObjectRef) state := by
        simp [allocObject, Exec.bind_run, found, KernelObjectType.asObjectKind]
      rw [same]
      exact allocIn_vacancies (fun _ => rfl) fun _ _ _ _ _ here => here
  | capabilitySpace =>
      exact allocIn_vacancies (fun _ => rfl)
        fun _ _ inserted _ _ here => Slab.get?_of_insert_of_some inserted here
  | untyped => exact allocIn_vacancies (fun _ => rfl) fun _ _ _ _ _ here => here
  | pageTable => exact allocIn_vacancies (fun _ => rfl) fun _ _ _ _ _ here => here
  | endpoint => exact allocIn_vacancies (fun _ => rfl) fun _ _ _ _ _ here => here
  | notification => exact allocIn_vacancies (fun _ => rfl) fun _ _ _ _ _ here => here
  | sharedRegion => exact allocIn_vacancies (fun _ => rfl) fun _ _ _ _ _ here => here

/-- A new object leaves the caller and its space as they are. -/
theorem Creating.allocObject {phys : Nat} {object : ObjectRef}
    (creating : Creating caller csId before)
    (ran : allocObject caller targetType phys before = .ok object after)
    (kept : ∀ space held, before.capSpace space = some held →
      after.capSpace space = some held) :
    Creating caller csId after ∧ after.freeSlots csId = before.freeSlots csId := by
  let grant : RetypeGrant :=
    { kind := targetType, count := 1, physBase := phys, physLen := pageSize }
  have page : grant.Page phys := ⟨0, Nat.one_pos, by simp [grant]⟩
  obtain ⟨table, here⟩ := Option.isSome_iff_exists.1 creating.table
  have still := kept csId table here
  rcases allocObject_spec page caller csId before with
    ⟨error, failed⟩ | ⟨other, later, succeeded, allocates⟩
  · rw [failed] at ran
    cases ran
  · rw [succeeded, Outcome.ok.injEq] at ran
    obtain ⟨_, rfl⟩ := ran
    refine ⟨⟨(allocates.creates.caps creating.wf).1, ?_, by rw [still]; rfl⟩, ?_⟩
    · have space := creating.space
      unfold callerCapSpace at *
      cases found : before.tcb caller with
      | none => simp [found] at space
      | some tcb =>
          have there : later.tcb caller = some tcb :=
            allocates.creates.tcbs.get?_of_some found
          rw [found] at space
          rw [there]
          exact space
    · rw [freeSlots, freeSlots, here, still]

/-- A capability is stored exactly if the space has an empty slot. -/
theorem insertNewCap_freeSlots (creating : Creating caller csId state)
    (object : ObjectRef) :
    (state.freeSlots csId = 0 ∧
        ∃ error, insertNewCap csId object state = .err error state) ∨
      ∃ slot later, insertNewCap csId object state = .ok slot later ∧
        later.freeSlots csId + 1 = state.freeSlots csId ∧
        later.vacancies = state.vacancies ∧ Creating caller csId later := by
  obtain ⟨forest, represents⟩ := creating.wf
  obtain ⟨table, here⟩ := Option.isSome_iff_exists.1 creating.table
  have wf : table.Wf := represents.wf csId table here
  have run : insertNewCap csId object state =
      onCapSpaces (CapTables.onTable csId (CapTable.insertRoot (.full object))) state := by
    rw [insertNewCap, Exec.get_bind_run, here, Exec.okOr_some, Exec.pure_bind_run]
  have free : state.freeSlots csId = capSlotsPerSpace - table.occupied := by
    rw [freeSlots, here]
  rw [run, free]
  rcases CapTable.insertRoot_run wf (.full object) with ⟨head, failed⟩ | ⟨id, head, ran⟩
  · refine Or.inl ⟨wf.freeHead_eq_none_iff.1 head, .cap .full, ?_⟩
    have onTable := CapTables.onTable_of_err here failed
    simp [onCapSpaces, Exec.zoom, onTable]
  · have onTable := CapTables.onTable_of_ok here ran
    have room : capSlotsPerSpace - table.occupied ≠ 0 := by
      intro full
      rw [wf.freeHead_eq_none_iff.2 full] at head
      cases head
    have stored : ∀ space, (state.capSpaces.put csId (table.occupy id (.full object)
        none)).get? space = if csId = space then some (table.occupy id (.full object) none)
          else state.capSpaces.get? space :=
      fun space => Slab.get?_put_of_some here space _
    refine Or.inr ⟨id, { state with
      capSpaces := state.capSpaces.put csId (table.occupy id (.full object) none) },
      ?_, ?_, ?_, ?_⟩
    · simp [onCapSpaces, Exec.zoom, onTable]
    · rw [freeSlots, capSpace, stored, if_pos rfl]
      change capSlotsPerSpace - (table.occupied + 1) + 1 = _
      omega
    · funext kind
      cases kind with
      | capabilitySpace => exact Slab.vacancies_put_of_some here _
      | _ => rfl
    · refine ⟨?_, creating.space, ?_⟩
      · have inserts := represents.insertRoot here (.full object)
        exact inserts.wf represents (by rw [onTable]; rfl)
      · rw [capSpace, stored, if_pos rfl]
        rfl

/-! ## The loop -/

/-- The loop goes through exactly if there is room for all that is left to do. -/
theorem createObjects_room (physBase i remaining : Nat) (first : Option CapId)
    (creating : Creating caller csId state) :
    (remaining ≤ state.vacancies targetType ∧ remaining ≤ state.freeSlots csId ∧
        ∃ made later, createObjects caller csId targetType physBase i remaining first state =
          .ok made later ∧ (first.isSome ∨ remaining ≠ 0 → made.isSome)) ∨
      ¬(remaining ≤ state.vacancies targetType ∧ remaining ≤ state.freeSlots csId) ∧
        ∃ error later, createObjects caller csId targetType physBase i remaining first
          state = .err error later := by
  induction remaining generalizing i first state with
  | zero =>
      refine Or.inl ⟨Nat.zero_le _, Nat.zero_le _, first, state, rfl, ?_⟩
      rintro (some | impossible)
      · exact some
      · exact absurd rfl impossible
  | succ remaining ih =>
      rw [createObjects]
      rcases allocObject_vacancies creating (physBase + i * objectSizeBytes targetType) with
        ⟨full, error, failed⟩ | ⟨object, middle, ran, fewer, kept⟩
      · rw [Exec.bind_of_err failed]
        exact Or.inr ⟨by omega, error, state, rfl⟩
      · obtain ⟨creatingMiddle, sameSlots⟩ := creating.allocObject ran kept
        rw [Exec.bind_of_ok ran]
        rcases insertNewCap_freeSlots creatingMiddle object with
          ⟨full, error, failed⟩ | ⟨slot, later, stored, fewerSlots, sameVacancies,
            creatingLater⟩
        · rw [Exec.bind_of_err failed]
          exact Or.inr ⟨by omega, error, middle, rfl⟩
        · rw [Exec.bind_of_ok stored]
          rw [← sameVacancies] at fewer
          rcases ih (i + 1) (first.or (some slot)) creatingLater with
            ⟨room, slots, made, final, rest, some⟩ | ⟨noRoom, error, final, rest⟩
          · refine Or.inl ⟨by omega, by omega, made, final, rest, fun _ => some (Or.inl ?_)⟩
            cases first with
            | none => rfl
            | some cap => rfl
          · exact Or.inr ⟨by omega, error, final, rest⟩

/-! ## The call -/

/-- A region that has handed something out is not what it was. -/
theorem UntypedMemory.Grants.ne {before after : UntypedMemory} {grant : RetypeGrant}
    (grants : UntypedMemory.Grants before after grant) : after ≠ before := by
  rintro rfl
  have watermark := grants.watermark
  have above := grants.above
  have positive : 0 < pageSize * grant.count :=
    Nat.mul_pos (by decide) (Nat.pos_of_ne_zero grants.positive)
  have length := grants.length
  omega

theorem reserveRange_total (untyped : CapId) (count : Nat) :
    (reserveRange caller untyped targetType count).Total := by
  refine Exec.Total.get.bind fun state => (Exec.Total.ofExcept _).bind fun ucap => ?_
  exact onObject_total (UntypedMemory.retype_total targetType count)

/-- A watermark takes no room from the tables. -/
theorem vacancies_putUntyped {uid : UntypedId} {region : UntypedMemory}
    (present : state.untyped.get? uid = some region) (later : UntypedMemory) :
    (state.putUntyped uid later).vacancies = state.vacancies := by
  funext kind
  cases kind with
  | untyped => exact Slab.vacancies_put_of_some present later
  | _ => rfl

/-- A reservation leaves the caller and its space as they are. -/
theorem Creating.of_reserved (named : state.Named) {untyped : CapId} {uid : UntypedId}
    (holds : state.Holds caller csId untyped .untypedMemory .write uid)
    (later : UntypedMemory) : Creating caller csId (state.putUntyped uid later) := by
  refine ⟨named.wf, holds.space, ?_⟩
  obtain ⟨held, here, _⟩ := holds.held
  obtain ⟨table, there, _⟩ := CapTables.exists_of_lookup here
  exact Option.isSome_iff_exists.2 ⟨table, there⟩

/-- `Retype` ends in one of three ways: nothing is reserved and nothing changes, or
everything is made, or a watermark moves and the call fails. -/
theorem doRetype_cases (named : state.Named) (caller : ThreadId) (untyped : CapId)
    (targetType : KernelObjectType) (count : Nat) :
    (¬state.CanReserve caller untyped count ∧
        ∃ error, doRetype caller untyped targetType count state = .err error state) ∨
      (state.CanReserve caller untyped count ∧ state.HasRoomFor caller targetType count ∧
        ∃ result later, doRetype caller untyped targetType count state =
          .ok result later) ∨
      state.CanReserve caller untyped count ∧
        ¬state.HasRoomFor caller targetType count ∧
        ∃ error later, doRetype caller untyped targetType count state = .err error later ∧
          later.untyped ≠ state.untyped := by
  unfold doRetype
  rcases reserveRange_spec caller untyped targetType count state with
    ⟨idle, error, failed⟩ | panicked |
      ⟨csId, uid, region, grant, later, holds, present, reserved, ran⟩
  · refine Or.inl ⟨?_, error, Exec.bind_of_err failed _⟩
    rintro ⟨csId, uid, region, holds, present, room⟩
    obtain ⟨grant, later, reserved⟩ :=
      (@UntypedMemory.retype_isOk_iff targetType count region).2 room
    simp [reserves, holds.untypedAt, present, reserved] at idle
  · exact absurd panicked (reserveRange_total untyped count state)
  · have can : state.CanReserve caller untyped count :=
      ⟨csId, uid, region, holds, present, UntypedMemory.retype_isOk_iff.1 ⟨_, _, reserved⟩⟩
    obtain ⟨_, sameCount, grants⟩ := UntypedMemory.retype_ok reserved
    have creating := Creating.of_reserved named holds later
    have room : state.HasRoomFor caller targetType count ↔
        grant.count ≤ (state.putUntyped uid later).vacancies targetType ∧
          grant.count ≤ (state.putUntyped uid later).freeSlots csId := by
      have sameSlots : (state.putUntyped uid later).freeSlots csId = state.freeSlots csId :=
        rfl
      rw [sameCount, vacancies_putUntyped present, sameSlots]
      refine ⟨fun room => ⟨room.1, room.2 csId holds.space⟩, fun room => ⟨room.1, ?_⟩⟩
      intro other space
      rw [holds.space, Except.ok.injEq] at space
      exact space ▸ room.2
    rw [Exec.bind_of_ok ran, Exec.get_bind_run, creating.space, Exec.ofExcept_ok,
      Exec.pure_bind_run]
    refine Or.inr ?_
    rcases createObjects_room grant.physBase 0 grant.count none creating with
      ⟨vacant, slots, made, final, loop, some⟩ | ⟨noRoom, error, final, loop⟩
    · obtain ⟨cap, rfl⟩ := Option.isSome_iff_exists.1 (some (Or.inr grants.positive))
      refine Or.inl ⟨can, room.2 ⟨vacant, slots⟩, .newCaps cap grant.count, final, ?_⟩
      rw [Exec.bind_of_ok loop]
      rfl
    · refine Or.inr ⟨can, fun has => noRoom (room.1 has), error, final,
        Exec.bind_of_err loop _, ?_⟩
      have reached : (createObjects caller csId targetType grant.physBase 0 grant.count none
          (state.putUntyped uid later)).state? = some final := by
        rw [loop]
        rfl
      have creates := createObjects_creates (by omega) reached
      have moved : (state.putUntyped uid later).untyped.get? uid = some later :=
        Slab.get?_put_self (Slab.lt_of_get? present) later
      intro same
      have still := creates.untyped.get?_of_some moved
      rw [same, present, Option.some.injEq] at still
      exact UntypedMemory.Grants.ne grants still.symm

end KernelState

/-! ## Failing without a change -/

namespace Machine

variable {μ : Type} (hal : HalInterface μ)

theorem named_of_reachable {machine : Machine μ}
    (reachable : (system hal).Reachable TransitionSystem.anyStep machine) :
    machine.kernel.Named :=
  reachable.invariant (fun _ boots => boots.named)
    fun _ _ _ _ named taken => (step_keeps hal taken).named named

/-- A `Retype` that fails changes nothing, exactly if it fails before it reserves
memory, or there is room for all that was asked for and it does not fail. -/
theorem retype_atomic_iff {machine : Machine μ}
    (reachable : (system hal).Reachable TransitionSystem.anyStep machine)
    (caller : ThreadId) (untyped : CapId) (targetType : KernelObjectType) (count nowNs : Nat) :
    (∀ error final,
        dispatch hal caller nowNs (.retype untyped targetType count) machine =
          .err error final → final = machine) ↔
      (machine.kernel.CanReserve caller untyped count →
        machine.kernel.HasRoomFor caller targetType count) := by
  have named := named_of_reachable hal reachable
  rcases KernelState.doRetype_cases named caller untyped targetType count with
    ⟨cannot, error, ran⟩ | ⟨_, room, result, later, ran⟩ | ⟨can, noRoom, error, later, ran, moved⟩
  · have ended : dispatch hal caller nowNs (.retype untyped targetType count) machine =
        .err error machine := by
      simp [dispatch, onKernel, Exec.zoom, ran]
    rw [ended]
    refine iff_of_true (fun other final failed => ?_) fun can => absurd can cannot
    exact (Outcome.err.inj failed).2.symm
  · have ended : dispatch hal caller nowNs (.retype untyped targetType count) machine =
        .ok result { machine with kernel := later } := by
      simp [dispatch, onKernel, Exec.zoom, ran]
    rw [ended]
    refine iff_of_true (fun error final failed => ?_) fun _ => room
    cases failed
  · have ended : dispatch hal caller nowNs (.retype untyped targetType count) machine =
        .err error { machine with kernel := later } := by
      simp [dispatch, onKernel, Exec.zoom, ran]
    rw [ended]
    refine iff_of_false (fun unchanged => moved ?_) fun has => noRoom (has can)
    have same := unchanged error _ rfl
    rw [← same]

theorem retype_atomic_iff_sample :
    (∀ error final,
        dispatch sampleHal 0 1 (.retype 0 .endpoint 2) sampleMachine = .err error final →
          final = sampleMachine) ↔
      (sampleMachine.kernel.CanReserve 0 0 2 →
        sampleMachine.kernel.HasRoomFor 0 .endpoint 2) :=
  retype_atomic_iff sampleHal ⟨sampleMachine, sampleMachine_boots, .refl _⟩ 0 0 .endpoint 2 1

/-- More endpoints than the table holds: the call fails with the table full. -/
theorem retype_keeps_reservation :
    ¬ ∀ (machine : Machine Unit) (caller : ThreadId) (untyped : CapId)
        (targetType : KernelObjectType) (count nowNs : Nat) (error : SyscallError)
        (final : Machine Unit),
      (system sampleHal).Reachable TransitionSystem.anyStep machine →
      dispatch sampleHal caller nowNs (.retype untyped targetType count) machine =
        .err error final → final = machine := by
  intro claimed
  have start : (system sampleHal).Reachable TransitionSystem.anyStep sampleMachine :=
    ⟨sampleMachine, sampleMachine_boots, .refl _⟩
  have atomic := fun error final =>
    claimed sampleMachine 0 0 .endpoint 49 1 error final start
  have ran :
      (dispatch sampleHal 0 1 (.retype 0 .endpoint 49) sampleMachine).value? = none ∧
      (dispatch sampleHal 0 1 (.retype 0 .endpoint 49) sampleMachine).state?.any
        (fun final => final.kernel.untyped ≠ sampleMachine.kernel.untyped) := by
    decide +kernel
  generalize dispatch sampleHal 0 1 (.retype 0 .endpoint 49) sampleMachine = outcome
    at atomic ran
  obtain ⟨noValue, moved⟩ := ran
  cases outcome with
  | ok result final => simp at noValue
  | err error final =>
      rw [atomic error final rfl] at moved
      simp at moved
  | panic => simp at moved

end Machine

end Simurgh
