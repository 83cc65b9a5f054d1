import Simurgh.Core.Reservation
import Simurgh.Mm.Mappings

/-!
# All or nothing

`Map` adds a page to an address space before it asks the hardware, and takes it out again
when the hardware refuses.  What it takes out is what it has added.
-/

namespace Simurgh

namespace AddressSpace

variable {M : Nat} {before after left : AddressSpace M} {mapping : Mapping}

/-- No other mapping starts where the new one starts. -/
theorem Adds.vaddr_ne (adds : Adds before after mapping)
    (nonempty : ∀ other ∈ before.mappings.objects, other.len ≠ 0) {other : Mapping}
    (member : other ∈ before.mappings.objects) : other.vaddr ≠ mapping.vaddr := by
  intro same
  have free := adds.separate other member
  unfold Mapping.overlaps at free
  obtain ⟨stop, ends, free⟩ := Option.bind_eq_some_iff.1 free
  obtain ⟨otherStop, otherEnds, free⟩ := Option.bind_eq_some_iff.1 free
  have apart := of_decide_eq_false (Option.some.inj free)
  have first := checkedAdd_eq_some.1 ends
  have second := checkedAdd_eq_some.1 otherEnds
  have length := nonempty other member
  have newLength := adds.nonempty
  omega

/-- Taking the new mapping out again restores the space. -/
theorem Adds.unmap (adds : Adds before after mapping)
    (nonempty : ∀ other ∈ before.mappings.objects, other.len ≠ 0)
    (ended : (unmap mapping.vaddr after).state? = some left) : left = before := by
  have distinct : ∀ other ∈ before.mappings.objects, other.vaddr ≠ mapping.vaddr :=
    fun _ member => adds.vaddr_ne nonempty member
  obtain ⟨slot, mappings, inserted, rfl⟩ := adds.stored
  obtain ⟨inside, vacant, rfl⟩ := Slab.insert_spec inserted
  -- Only the cell that was filled has a mapping at this address.
  have here : ∀ i object, (before.mappings.put slot mapping).get? i = some object →
      object.vaddr = mapping.vaddr → i = slot := by
    intro i object present same
    by_contra ne
    rw [Slab.get?_put_of_ne (Ne.symm ne)] at present
    exact distinct object (Slab.mem_objects.2 ⟨i, present⟩) same
  rcases unmap_state ended with ⟨missing, _⟩ | ⟨i, object, found, rfl⟩
  · exact absurd missing (Slab.find?_ne_none (Slab.get?_put_self inside mapping) (by simp))
  · obtain ⟨present, same⟩ := Slab.find?_spec found
    obtain rfl := here i object present (by simpa using same)
    simp only [Slab.clear_put vacant]
    rfl

end AddressSpace

namespace KernelState

/-- Every mapping is one page. -/
def Paged (state : KernelState) : Prop :=
  ∀ mapping, state.Maps mapping → mapping.len = pageSize

theorem Paged.congr {before after : KernelState} (paged : before.Paged)
    (same : after.addrSpaces = before.addrSpaces) : after.Paged := by
  intro mapping held
  obtain ⟨asId, space, present, member⟩ := held
  rw [same] at present
  exact paged mapping ⟨asId, space, present, member⟩

/-- New address spaces are empty. -/
theorem Paged.grows {before after : KernelState} (paged : before.Paged)
    (added : ∀ asId space, after.addrSpaces.get? asId = some space →
      before.addrSpaces.get? asId = some space ∨ ∃ root, space = .new root) : after.Paged := by
  rintro mapping ⟨asId, space, present, member⟩
  rcases added asId space present with old | ⟨root, rfl⟩
  · exact paged mapping ⟨asId, space, old, member⟩
  · rw [AddressSpace.new_objects] at member
    cases member

theorem Effect.paged {caller : ThreadId} {nowNs : Nat} {before after : KernelState}
    {op : SyscallOp} {next : Option ThreadId}
    (effect : Effect caller nowNs before op next after) (paged : before.Paged) :
    after.Paged := by
  cases op with
  | map pageTable frame vaddr perms => exact fun mapping held => effect.map_len paged held
  | retype untyped targetType count =>
      rcases effect.retype_cases with ⟨_, rfl⟩ |
        ⟨csId, uid, region, grant, later, _, _, _, _, created, _⟩
      · exact paged
      · refine paged.grows fun asId space present => ?_
        rcases created.addrSpaces.cases_of_some present with old | ⟨_, _, root, _, same⟩
        · exact Or.inl old
        · exact Or.inr ⟨root, same⟩
  | _ => exact paged.congr (effect.sameMemory (by simp) (by simp)).addrSpaces

end KernelState

namespace Machine

variable {μ : Type} {hal : HalInterface μ}

theorem Boots.paged {machine : Machine μ} (boots : machine.Boots) : machine.kernel.Paged := by
  obtain ⟨kernel, fromBoot, same⟩ := boots
  have empty : kernel.Paged := by
    rintro mapping ⟨asId, space, present, member⟩
    obtain ⟨root, rfl⟩ := fromBoot.booted.unmapped asId space present
    rw [AddressSpace.new_objects] at member
    cases member
  rcases same with rfl | ⟨base, len, installed⟩
  · exact empty
  · rw [installed]
    exact empty.congr rfl

theorem step_paged {before after : Machine μ} {event : KernelEvent}
    (paged : before.kernel.Paged) (taken : (system hal).Step before event after) :
    after.kernel.Paged := by
  have moves := step_moves hal taken
  generalize after.kernel = final at moves
  cases moves with
  | ticked chosen => exact paged.congr rfl
  | @called caller op nowNs next kernel effect =>
      have later := effect.paged paged
      cases next with
      | none => exact later
      | some next => exact later.congr rfl
  | @started _ tid entry priority nowNs isStart =>
      exact paged.congr (KernelState.sameMemory_updateTcb tid
        (fun tcb => { tcb with entry, state := .runnable }) before.kernel).addrSpaces
  | @killed _ tid nowNs sched isKill chosen =>
      exact paged.congr (KernelState.sameMemory_updateTcb tid
        (fun tcb => { tcb with state := .exited }) before.kernel).addrSpaces
  | spawned isSpawn spawns =>
      refine paged.grows fun asId space present => ?_
      rcases spawns.addrSpaces.cases_of_some present with old | ⟨_, root, same⟩
      · exact Or.inl old
      · exact Or.inr ⟨root, same⟩
  | grantedInto chosen => exact paged.congr rfl

theorem paged_of_reachable {admits : Machine μ → KernelEvent → Prop} {machine : Machine μ}
    (reachable : (system hal).Reachable admits machine) : machine.kernel.Paged :=
  reachable.invariant (fun _ boots => Boots.paged boots)
    fun _ _ _ _ paged taken => step_paged paged taken

/-- One page was added to the address space that the call names, and the pool may have
advanced. -/
structure MapsOnePage (caller : ThreadId) (pageTable frame : CapId) (vaddr : Nat)
    (perms : MapPermissions) (before after : KernelState) : Prop where
  added : ∃ csId asId cap phys space later used,
    before.Holds caller csId pageTable .pageTable .write asId ∧
      before.lookupCap caller frame = .ok cap ∧ before.framePhys cap = .ok phys ∧
        before.addrSpaces.get? asId = some space ∧
          AddressSpace.Adds space later { vaddr, paddr := phys, len := pageSize, perms } ∧
            after = { before.putAddrSpace asId later with mapPoolUsed := used }

/-- However `Map` ends, it has done all or nothing. -/
theorem doMap_all_or_nothing {machine : Machine μ} (paged : machine.kernel.Paged)
    (caller : ThreadId) (pageTable frame : CapId) (vaddr : Nat) (perms : MapPermissions) :
    (∀ error after, doMap hal caller pageTable frame vaddr perms machine = .err error after →
      after.kernel = machine.kernel) ∧
    ∀ ret after, doMap hal caller pageTable frame vaddr perms machine = .ok ret after →
      MapsOnePage caller pageTable frame vaddr perms machine.kernel after.kernel := by
  rcases @doMap_cases μ hal caller pageTable frame vaddr perms machine with
    ⟨error, ran⟩ | panicked |
      ⟨csId, asId, held, phys, space, later, holds, frameHeld, allowed, resolved, present, added,
        done⟩
  · rw [ran]
    constructor
    · intro _ after ended
      obtain ⟨_, rfl⟩ := Outcome.err.inj ended
      rfl
    · intro ret after ended
      cases ended
  · rw [panicked]
    constructor
    · intro _ after ended
      cases ended
    · intro ret after ended
      cases ended
  · have adds := AddressSpace.map_ok added
    have maps : ∀ used, MapsOnePage caller pageTable frame vaddr perms machine.kernel
        { machine.kernel.putAddrSpace asId later with mapPoolUsed := used } := fun used =>
      ⟨csId, asId, held, phys, space, later, used, holds,
        KernelState.lookupCap_of_held holds.space frameHeld, resolved, present, adds, rfl⟩
    rcases done with ⟨_, ran⟩ | ⟨_, _, consumed, hw, _, _, _,
      ⟨_, left, removed, ran⟩ | ⟨_, ran⟩⟩
    · rw [ran]
      constructor
      · intro _ after ended
        cases ended
      · intro ret after ended
        obtain ⟨_, rfl⟩ := Outcome.ok.inj ended
        exact maps machine.kernel.mapPoolUsed
    · rw [ran]
      constructor
      · intro _ after ended
        obtain ⟨_, rfl⟩ := Outcome.err.inj ended
        -- The rollback finds the mapping that was just added.
        have nonempty : ∀ other ∈ space.mappings.objects, other.len ≠ 0 := by
          intro other member
          rw [paged other ⟨asId, space, present, member⟩]
          decide
        obtain rfl := adds.unmap nonempty removed
        change machine.kernel.putAddrSpace asId left = machine.kernel
        unfold KernelState.putAddrSpace
        rw [Slab.put_self present]
      · intro ret after ended
        cases ended
    · rw [ran]
      constructor
      · intro _ after ended
        cases ended
      · intro ret after ended
        obtain ⟨_, rfl⟩ := Outcome.ok.inj ended
        exact maps (machine.kernel.mapPoolUsed + consumed)

/-- In every reachable state and for every answer of the hardware, a `Map` that fails
leaves the kernel as it was, and one that succeeds adds exactly one page. -/
theorem map_all_or_nothing {machine : Machine μ}
    (reachable : (system hal).Reachable TransitionSystem.anyStep machine)
    (caller : ThreadId) (nowNs : Nat) (pageTable frame : CapId) (vaddr : Nat)
    (perms : MapPermissions) :
    (∀ error after,
      dispatch hal caller nowNs (.map pageTable frame vaddr perms) machine = .err error after →
        after.kernel = machine.kernel) ∧
    ∀ ret after,
      dispatch hal caller nowNs (.map pageTable frame vaddr perms) machine = .ok ret after →
        MapsOnePage caller pageTable frame vaddr perms machine.kernel after.kernel :=
  doMap_all_or_nothing (paged_of_reachable reachable) caller pageTable frame vaddr perms

/-- The hardware has no memory for page tables. -/
def refusingHal : HalInterface Unit :=
  { sampleHal with mapRange := fun _ _ _ _ _ _ _ hw => (u32Max, hw) }

def sampleMapping : SyscallOp :=
  .map sampleKernel.rootPageTableCap 0 4096
    { readable := true, writable := true, executable := false, deviceUncached := false }

def pooledMachine : Machine Unit :=
  { kernel := sampleKernel.installMapPool 0x1100000 8, hw := () }

/-- The hardware refuses a page, and then it accepts it. -/
theorem map_all_or_nothing_sample :
    (∃ after, dispatch refusingHal 0 1 sampleMapping pooledMachine =
        .err (.mm .hardwareMapFailed) after ∧ after.kernel = pooledMachine.kernel) ∧
      ∃ after, dispatch sampleHal 0 1 sampleMapping pooledMachine = .ok .mapped after ∧
        MapsOnePage 0 sampleKernel.rootPageTableCap 0 4096
          { readable := true, writable := true, executable := false, deviceUncached := false }
          pooledMachine.kernel after.kernel := by
  have boots : pooledMachine.Boots :=
    ⟨sampleKernel, sampleKernel_fromBootInfo, Or.inr ⟨0x1100000, 8, rfl⟩⟩
  have refused : (dispatch refusingHal 0 1 sampleMapping pooledMachine).error? =
      some (.mm .hardwareMapFailed) := by
    decide +kernel
  have accepted : (dispatch sampleHal 0 1 sampleMapping pooledMachine).value? =
      some .mapped := by
    decide +kernel
  obtain ⟨first, failed⟩ := Outcome.eq_err_of_error? refused
  obtain ⟨second, mapped⟩ := Outcome.eq_ok_of_value? accepted
  exact ⟨⟨first, failed, (map_all_or_nothing ⟨pooledMachine, boots, .refl _⟩ 0 1 _ _ _ _).1
      _ first failed⟩,
    ⟨second, mapped, (map_all_or_nothing ⟨pooledMachine, boots, .refl _⟩ 0 1 _ _ _ _).2
      _ second mapped⟩⟩

end Machine

end Simurgh
